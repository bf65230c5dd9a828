import ConsoleGateway.Gateway.Serve
import ConsoleGateway.Proofs.FormText
import ConsoleGateway.Proofs.Settled

namespace ConsoleGateway

namespace Utf8

theorem encodeChar_of_lt {c : Char} (ascii : c.toNat < 0x80) : encodeChar c = [.ofNat c.toNat] := by
  simp [encodeChar, ascii]

theorem ofNat_toNat_ne {c d : Char} (ascii : c.toNat < 0x80) (ascii' : d.toNat < 0x80)
    (apart : c ≠ d) : UInt8.ofNat c.toNat ≠ .ofNat d.toNat := by
  intro same
  have := congrArg UInt8.toNat same
  rw [UInt8.toNat_ofNat', UInt8.toNat_ofNat'] at this
  exact apart (Char.toNat_inj.1 (by omega))

end Utf8

namespace Percent

/-- Whatever may change the meaning of a query's value is escaped: all but the characters of one
byte, and those that join pairs, stand for spaces or start escapes. -/
def IsQuerySafe (escaped : Char → Bool) : Prop :=
  ∀ c, escaped c = false → c.toNat < 0x80 ∧ c ≠ '%' ∧ c ≠ '+' ∧ c ≠ '&'

variable {escaped : Char → Bool}

theorem decodeBytes_flatMap_escape (bs rest : List UInt8) :
    decodeBytes (Utf8.encode (bs.flatMap escape) ++ rest) = bs ++ decodeBytes rest := by
  induction bs with
  | nil => rfl
  | cons b bs ih =>
    rw [List.flatMap_cons, Utf8.encode_append, List.append_assoc, decodeBytes_escape, ih]
    rfl

theorem decode_encode (safe : IsQuerySafe escaped) (cs : List Char) :
    decode (encode escaped cs) = Utf8.encode cs := by
  unfold decode
  induction cs with
  | nil => rfl
  | cons c cs ih =>
    rw [encode, List.flatMap_cons, Utf8.encode_append, Utf8.encode_cons, ← ih]
    cases escapes : escaped c with
    | true => exact decodeBytes_flatMap_escape _ _
    | false =>
      obtain ⟨ascii, noPercent, -⟩ := safe c escapes
      have plain : UInt8.ofNat c.toNat ≠ 0x25 := Utf8.ofNat_toNat_ne ascii (by decide) noPercent
      simp only [Bool.false_eq_true, if_false, Utf8.encode_cons, Utf8.encode_nil, List.append_nil,
        Utf8.encodeChar_of_lt ascii, List.cons_append, List.nil_append, decodeBytes_cons plain]
      rfl

theorem inert_of_mem_encode (safe : IsQuerySafe escaped) {cs : List Char} {c : Char}
    (h : c ∈ encode escaped cs) : c ≠ '+' ∧ c ≠ '&' := by
  have digit : ∀ k < 16, upperHexDigit k ≠ '+' ∧ upperHexDigit k ≠ '&' := by decide
  rcases mem_encode h with ⟨-, kept⟩ | rfl | ⟨k, hk, rfl⟩
  · exact (safe c kept).2.2
  · decide
  · exact digit k hk

end Percent

namespace Form

theorem readPart_encode {escaped : Char → Bool} (safe : Percent.IsQuerySafe escaped)
    (cs : List Char) : readPart (Percent.encode escaped cs) = cs := by
  have noPlus : (Percent.encode escaped cs).map unplus = Percent.encode escaped cs := by
    refine (List.map_congr_left fun c hc => ?_).trans (List.map_id _)
    exact if_neg (Percent.inert_of_mem_encode safe hc).1
  change Utf8.decodeLossy (Percent.decode ((Percent.encode escaped cs).map unplus)) = cs
  rw [noPlus, Percent.decode_encode safe, Utf8.decodeLossy_encode]

end Form

/-- The request for a report on the navigation to where another request leads. -/
def Request.report (escaped : Char → Bool) (page : Request) : Request :=
  { path := "/api/navigation"
    query := some (.ofList ("url=".toList ++ Percent.encode escaped page.target.toList))
    cookies := page.cookies }

theorem Request.navigationTarget_report {escaped : Char → Bool}
    (safe : Percent.IsQuerySafe escaped) (page : Request) :
    (page.report escaped).navigationTarget = .ok page.target := by
  let written := Percent.encode escaped page.target.toList
  have whole : '&' ∉ "url=".toList ++ written := by
    intro h
    rcases List.mem_append.1 h with name | value
    · exact absurd name (by decide)
    · exact (Percent.inert_of_mem_encode safe value).2 rfl
  have pair : Form.readPair ("url=".toList ++ written) = ("url".toList, page.target.toList) := by
    have value : Form.readPart written = page.target.toList := Form.readPart_encode safe _
    have name : Form.readPart "url".toList = "url".toList := by decide
    change (Form.readPart "url".toList, Form.readPart written) = _
    rw [name, value]
  have read : Form.read ("url=".toList ++ written) = [("url".toList, page.target.toList)] := by
    rw [Form.read, Form.splitOn_of_not_mem whole, ← pair]
    rfl
  unfold navigationTarget
  simp only [report, Option.getD_some, String.toList_ofList]
  rw [show Form.read _ = _ from read]
  simp

namespace Endpoint

theorem unescape_cons {b : UInt8} (plain : b ≠ 0x25) (bs : List UInt8) :
    unescape (b :: bs) = b :: unescape bs := by
  match bs with
  | [] => rfl
  | [_] => rfl
  | _ :: _ :: _ => simp [unescape, plain]

theorem routingPath_append {start : List Char}
    (plain : ∀ c ∈ start, c.toNat < 0x80 ∧ c ≠ '%') (rest : List Char) :
    routingPath (start ++ rest) = start ++ routingPath rest := by
  induction start with
  | nil => rfl
  | cons c start ih =>
    obtain ⟨⟨ascii, noPercent⟩, hstart⟩ := List.forall_mem_cons.1 plain
    have noEscape : UInt8.ofNat c.toNat ≠ 0x25 :=
      Utf8.ofNat_toNat_ne ascii (by decide) noPercent
    have first : routingPath (c :: (start ++ rest)) = c :: routingPath (start ++ rest) := by
      rw [routingPath, Utf8.encode_cons, Utf8.encodeChar_of_lt ascii, List.singleton_append,
        unescape_cons noEscape, ← List.singleton_append, ← Utf8.encodeChar_of_lt ascii]
      exact Utf8.decodeLossy_encodeChar_append c _
    rw [List.cons_append, first, ih hstart]
    rfl

theorem ofPath_of_isConsolePath {path : List Char} (h : isConsolePath path = true) :
    ofPath path = .consolePage := by
  simp only [isConsolePath, Bool.or_eq_true, decide_eq_true_eq] at h
  rcases h with ((rfl | rfl) | rfl) | below
  · decide
  · decide
  · decide
  · obtain ⟨rest, rfl⟩ := List.isPrefixOf_iff_prefix.1 below
    have plain : ∀ c ∈ "/harbor/".toList, c.toNat < 0x80 ∧ c ≠ '%' := by simp
    rw [ofPath, routingPath_append plain]
    rfl

end Endpoint

end ConsoleGateway
