import ConsoleGateway.Decode.Reader
import ConsoleGateway.Proofs.JsonTree

namespace ConsoleGateway.Decode

open Json

def IsText (s : String) (d : Doc) : Prop := Doc.ofText s.toList = ⟨d, true⟩

theorem skippableItems_eq (items : List Doc) : skippableItems items = items.all skippable := by
  induction items with
  | nil => rfl
  | cons d ds ih => rw [skippableItems, ih, List.all_cons]

theorem skippableMembers_eq (members : List (Doc × Doc)) :
    skippableMembers members = members.all fun m => skippable m.2 := by
  induction members with
  | nil => rfl
  | cons m ms ih => rw [skippableMembers, ih, List.all_cons]

def IsWhole : Frame → Prop
  | .items done => ∀ d ∈ done, skippable d = true
  | .members done _ => ∀ m ∈ done, skippable m.2 = true

def StaysWhole : Step → Prop
  | .next frames _ => ∀ f ∈ frames, IsWhole f
  | .whole d => skippable d = true
  | .stop _ => True

variable {t : Token} {d : Doc} {frames : List Frame}

theorem skippable_of_scalar (scalar : t.scalar? = some d) : skippable d = true := by
  cases t <;> cases scalar <;> rfl

theorem staysWhole_place (value : skippable d = true) (whole : ∀ f ∈ frames, IsWhole f) :
    StaysWhole (place d frames) := by
  match frames with
  | [] => exact value
  | .items done :: frames =>
    obtain ⟨inner, outer⟩ := List.forall_mem_cons.1 whole
    exact List.forall_mem_cons.2 ⟨List.forall_mem_cons.2 ⟨value, inner⟩, outer⟩
  | .members done (some key) :: frames =>
    obtain ⟨inner, outer⟩ := List.forall_mem_cons.1 whole
    exact List.forall_mem_cons.2 ⟨List.forall_mem_cons.2 ⟨value, inner⟩, outer⟩
  | .members done none :: frames => exact whole

theorem staysWhole_startValue (t : Token) (whole : ∀ f ∈ frames, IsWhole f) :
    StaysWhole (startValue t frames) := by
  unfold startValue
  split
  · exact List.forall_mem_cons.2 ⟨nofun, whole⟩
  · exact List.forall_mem_cons.2 ⟨nofun, whole⟩
  · split
    · rename_i scalar
      exact staysWhole_place (skippable_of_scalar scalar) whole
    · trivial

theorem staysWhole_startKey (t : Token) (whole : ∀ f ∈ frames, IsWhole f) :
    StaysWhole (startKey t frames) := by
  unfold startKey
  split
  · obtain ⟨inner, outer⟩ := List.forall_mem_cons.1 whole
    split
    · exact List.forall_mem_cons.2 ⟨inner, outer⟩
    · trivial
  · trivial

theorem staysWhole_close (t : Token) (whole : ∀ f ∈ frames, IsWhole f) :
    StaysWhole (close t frames) := by
  unfold close
  split
  · obtain ⟨inner, outer⟩ := List.forall_mem_cons.1 whole
    refine staysWhole_place ?_ outer
    have each : ∀ d ∈ _, skippable d = true := inner
    simpa [skippable, skippableItems_eq] using each
  · obtain ⟨inner, outer⟩ := List.forall_mem_cons.1 whole
    refine staysWhole_place ?_ outer
    have each : ∀ m : Doc × Doc, m ∈ _ → skippable m.2 = true := inner
    simpa [skippable, skippableMembers_eq] using each
  · trivial

theorem staysWhole_step (t : Token) (awaiting : Awaiting) (whole : ∀ f ∈ frames, IsWhole f) :
    StaysWhole (step t frames awaiting) := by
  cases awaiting with
  | value => exact staysWhole_startValue t whole
  | valueOrClose =>
    rw [step]
    split
    · exact staysWhole_close t whole
    · exact staysWhole_startValue t whole
  | key => exact staysWhole_startKey t whole
  | keyOrClose =>
    rw [step]
    split
    · exact staysWhole_close t whole
    · exact staysWhole_startKey t whole
  | colon =>
    rw [step]
    split
    · exact whole
    · trivial
  | commaOrClose =>
    simp only [step]
    split
    · split <;> exact whole
    · exact staysWhole_close t whole

theorem skippable_of_build {tokens : List Token} {awaiting : Awaiting}
    (whole : ∀ f ∈ frames, IsWhole f) (built : build tokens frames awaiting = ⟨d, true⟩) :
    skippable d = true := by
  induction tokens generalizing frames awaiting with
  | nil => cases built
  | cons t tokens ih =>
    have stays := staysWhole_step t awaiting whole
    rw [build_cons] at built
    cases stepped : step t frames awaiting with
    | next frames awaiting =>
      rw [stepped] at stays built
      exact ih stays built
    | whole d =>
      rw [stepped] at stays built
      obtain ⟨rfl, -⟩ := Reading.mk.inj built
      exact stays
    | stop d =>
      rw [stepped] at built
      cases built

theorem IsText.skippable {s : String} (text : IsText s d) : skippable d = true :=
  skippable_of_build (List.forall_mem_nil _) text

theorem IsText.skippable_of_mem {s : String} {members : List (Doc × Doc)} {m : Doc × Doc}
    (text : IsText s (.object members true)) (h : m ∈ members) : Decode.skippable m.2 = true := by
  have all := text.skippable
  simp only [Decode.skippable, skippableMembers_eq, Bool.and_true, List.all_eq_true] at all
  exact all m h

theorem IsText.ofText_eq {s : String} (text : IsText s d) (r : Reader α) :
    ofText r s = r .text d := by
  rw [ofText, ofReading, text]
  cases r .text d <;> simp

end ConsoleGateway.Decode
