import ConsoleGateway.Proofs.JsonTokens

namespace ConsoleGateway.Json

mutual

def Value.doc : Value → Doc
  | .null => .null
  | .bool b => .bool b
  | .int z => .number (.ofInt z)
  | .string s => .string (pieces s)
  | .array items => .array (Value.itemDocs items) true
  | .object members => .object (Value.memberDocs members) true

def Value.itemDocs : List Value → List Doc
  | [] => []
  | v :: vs => v.doc :: Value.itemDocs vs

def Value.memberDocs : List (String × Value) → List (Doc × Doc)
  | [] => []
  | (k, v) :: ms => (.string (pieces k), v.doc) :: Value.memberDocs ms

end

@[simp] theorem Value.itemDocs_eq (items : List Value) :
    Value.itemDocs items = items.map Value.doc := by
  induction items with
  | nil => rfl
  | cons v vs ih => rw [itemDocs, ih, List.map_cons]

@[simp] theorem Value.memberDocs_eq (members : List (String × Value)) :
    Value.memberDocs members = members.map fun (k, v) => (.string (pieces k), v.doc) := by
  induction members with
  | nil => rfl
  | cons m ms ih => rw [memberDocs, ih, List.map_cons]

def Step.reading (tokens : List Token) : Step → Reading
  | .next frames awaiting => build tokens frames awaiting
  | .whole d => ⟨d, tokens.isEmpty⟩
  | .stop d => ⟨d, false⟩

theorem build_cons (t : Token) (tokens : List Token) (frames : List Frame) (awaiting : Awaiting) :
    build (t :: tokens) frames awaiting = (step t frames awaiting).reading tokens := by
  rw [build]
  cases step t frames awaiting <;> rfl

def Awaiting.TakesValue : Awaiting → Prop
  | .value => True
  | .valueOrClose => True
  | _ => False

def Awaiting.TakesKey : Awaiting → Prop
  | .key => True
  | .keyOrClose => True
  | _ => False

theorem step_value {t : Token} {awaiting : Awaiting} (takes : awaiting.TakesValue)
    (open_ : t ≠ .closeBracket) (frames : List Frame) :
    step t frames awaiting = startValue t frames := by
  cases awaiting with
  | value => rfl
  | valueOrClose => simp [step, open_]
  | _ => cases takes

theorem build_scalar {t : Token} {d : Doc} {awaiting : Awaiting} (takes : awaiting.TakesValue)
    (scalar : t.scalar? = some d) (frames : List Frame) (tokens : List Token) :
    build (t :: tokens) frames awaiting = (place d frames).reading tokens := by
  rw [build_cons, step_value takes (by rintro rfl; cases scalar)]
  congr 1
  cases t <;> cases scalar <;> rfl

theorem build_closeBracket {awaiting : Awaiting} (closes : awaiting = .valueOrClose ∨
      awaiting = .commaOrClose) (done : List Doc) (frames : List Frame) (tokens : List Token) :
    build (.closeBracket :: tokens) (.items done :: frames) awaiting =
      (place (.array done.reverse true) frames).reading tokens := by
  rw [build_cons]
  rcases closes with rfl | rfl <;> rfl

theorem build_closeBrace {awaiting : Awaiting} (closes : awaiting = .keyOrClose ∨
      awaiting = .commaOrClose) (done : List (Doc × Doc)) (frames : List Frame)
    (tokens : List Token) :
    build (.closeBrace :: tokens) (.members done none :: frames) awaiting =
      (place (.object done.reverse true) frames).reading tokens := by
  rw [build_cons]
  rcases closes with rfl | rfl <;> rfl

theorem build_key {awaiting : Awaiting} (takes : awaiting.TakesKey) (ps : List Piece)
    (done : List (Doc × Doc)) (frames : List Frame) (tokens : List Token) :
    build (.string ps :: .colon :: tokens) (.members done none :: frames) awaiting =
      build tokens (.members done (some (.string ps)) :: frames) .value := by
  rw [build_cons]
  cases awaiting with
  | key => rfl
  | keyOrClose => rfl
  | _ => cases takes

mutual

theorem Value.build_tokens (v : Value) {awaiting : Awaiting} (takes : awaiting.TakesValue)
    (frames : List Frame) (tokens : List Token) :
    build (v.tokens ++ tokens) frames awaiting = (place v.doc frames).reading tokens := by
  match v with
  | .null => exact build_scalar takes rfl frames tokens
  | .bool b => exact build_scalar takes rfl frames tokens
  | .int z => exact build_scalar takes rfl frames tokens
  | .string s => exact build_scalar takes rfl frames tokens
  | .array items =>
    have opens (tokens) : build (.openBracket :: tokens) frames awaiting =
        build tokens (.items [] :: frames) .valueOrClose := by
      rw [build_cons, step_value takes (by simp)]
      rfl
    change build (.openBracket :: (Value.itemTokens items ++ [.closeBracket]) ++ tokens) _ _ = _
    rw [List.cons_append, opens, List.append_assoc]
    cases items with
    | nil => exact build_closeBracket (.inl rfl) [] frames tokens
    | cons v vs => exact Value.build_items (v :: vs) (by simp) (by trivial) [] frames tokens
  | .object members =>
    have opens (tokens) : build (.openBrace :: tokens) frames awaiting =
        build tokens (.members [] none :: frames) .keyOrClose := by
      rw [build_cons, step_value takes (by simp)]
      rfl
    change build (.openBrace :: (Value.memberTokens members ++ [.closeBrace]) ++ tokens) _ _ = _
    rw [List.cons_append, opens, List.append_assoc]
    cases members with
    | nil => exact build_closeBrace (.inl rfl) [] frames tokens
    | cons m ms => exact Value.build_members (m :: ms) (by simp) (by trivial) [] frames tokens

theorem Value.build_items (items : List Value) (some_ : items ≠ []) {awaiting : Awaiting}
    (takes : awaiting.TakesValue) (done : List Doc) (frames : List Frame) (tokens : List Token) :
    build (Value.itemTokens items ++ .closeBracket :: tokens) (.items done :: frames) awaiting =
      (place (.array (done.reverse ++ Value.itemDocs items) true) frames).reading tokens := by
  match items with
  | [] => exact absurd rfl some_
  | [v] =>
    rw [Value.itemTokens, v.build_tokens takes]
    exact (build_closeBracket (.inr rfl) (v.doc :: done) frames tokens).trans (by simp)
  | v :: w :: vs =>
    rw [Value.itemTokens, List.append_assoc, v.build_tokens takes]
    have takesNext : Awaiting.value.TakesValue := trivial
    have more := Value.build_items (w :: vs) (by simp) takesNext (v.doc :: done) frames tokens
    rw [List.reverse_cons, List.append_assoc] at more
    exact more

theorem Value.build_members (members : List (String × Value)) (some_ : members ≠ [])
    {awaiting : Awaiting} (takes : awaiting.TakesKey) (done : List (Doc × Doc))
    (frames : List Frame) (tokens : List Token) :
    build (Value.memberTokens members ++ .closeBrace :: tokens) (.members done none :: frames)
        awaiting =
      (place (.object (done.reverse ++ Value.memberDocs members) true) frames).reading tokens := by
  match members with
  | [] => exact absurd rfl some_
  | [(k, v)] =>
    rw [Value.memberTokens, List.cons_append, List.cons_append, build_key takes,
      v.build_tokens (by trivial)]
    exact (build_closeBrace (.inr rfl) ((.string (pieces k), v.doc) :: done) frames tokens).trans
      (by simp)
  | (k, v) :: m :: ms =>
    rw [Value.memberTokens, List.append_assoc, List.cons_append, List.cons_append,
      build_key takes, v.build_tokens (by trivial)]
    have takesNext : Awaiting.key.TakesKey := trivial
    have more := Value.build_members (m :: ms) (by simp) takesNext
      ((.string (pieces k), v.doc) :: done) frames tokens
    rw [List.reverse_cons, List.append_assoc] at more
    exact more

end

theorem Value.ofText_render (v : Value) : Doc.ofText v.render.toList = ⟨v.doc, true⟩ := by
  rw [render, String.toList_ofList, Doc.ofText, Doc.ofInput, lex_chars]
  have built := v.build_tokens (show Awaiting.value.TakesValue from trivial) [] []
  rw [List.append_nil] at built
  exact built

end ConsoleGateway.Json
