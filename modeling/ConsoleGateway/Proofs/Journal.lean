import ConsoleGateway.Proofs.Alone
import ConsoleGateway.Proofs.MemberGuard
import ConsoleGateway.Proofs.Splitting

namespace ConsoleGateway

namespace Journal

inductive Entry where
  -- The member guard starts for a request.
  | guarded (request : NavigationRequest)
  | answered (call : BackendCall) (answer : call.Answer)
  | left (s : Session)
  deriving DecidableEq

def Entry.Keeps (u : CurrentUser) : Entry → Prop
  | guarded _ => True
  | answered call _ => call ≠ .currentUser
  | left s => s.user = some u

def Entry.request? : Entry → Option NavigationRequest
  | guarded request => some request
  | _ => none

def Named (journal : List Entry) (u : CurrentUser) : Prop :=
  ∃ early late, journal = early ++ .answered .currentUser (.ok u) :: late ∧
    ∀ entry ∈ late, entry.Keeps u

def guarded? (journal : List Entry) : Option NavigationRequest :=
  (journal.filterMap Entry.request?).getLast?

/-- What a session remembers is justified by its journal and by the lists of members that the
registry keeps. -/
structure Justifies (lists : Int64 → Option (List ProjectMember)) (journal : List Entry)
    (s : Session) : Prop where
  user_of_members : s.projectMembers ≠ [] → s.user.isSome
  named : ∀ u, s.user = some u → Named journal u
  told : s.projectMembers = [] ∨ ∃ request id, guarded? journal = some request ∧
    request.projectId? = some id ∧ lists id = some s.projectMembers

/-- At every look the session is justified by the journal up to there. -/
def Lawful (lists : Int64 → Option (List ProjectMember)) (journal : List Entry) : Prop :=
  ∀ early s late, journal = early ++ .left s :: late → Justifies lists (early ++ [.left s]) s

variable {lists : Int64 → Option (List ProjectMember)} {journal : List Entry} {s t : Session}
  {u : CurrentUser} {request : NavigationRequest} {entry : Entry}

@[simp] theorem guarded?_guarded :
    guarded? (journal ++ [.guarded request]) = some request := by
  simp [guarded?, Entry.request?]

@[simp] theorem guarded?_answered {c : BackendCall} (answer : c.Answer) :
    guarded? (journal ++ [.answered c answer]) = guarded? journal := by
  simp [guarded?, Entry.request?]

@[simp] theorem guarded?_left : guarded? (journal ++ [.left s]) = guarded? journal := by
  simp [guarded?, Entry.request?]

theorem named_answered : Named (journal ++ [.answered .currentUser (.ok u)]) u :=
  ⟨journal, [], rfl, nofun⟩

theorem Named.snoc (named : Named journal u) (keeps : entry.Keeps u) :
    Named (journal ++ [entry]) u := by
  obtain ⟨early, late, rfl, kept⟩ := named
  refine ⟨early, late ++ [entry], by simp, fun e he => ?_⟩
  rcases List.mem_append.1 he with before | last
  · exact kept e before
  · rw [List.mem_singleton.1 last]
    exact keeps

theorem lawful_nil : Lawful lists [] := by
  intro early s late h
  simp at h

theorem Lawful.look (lawful : Lawful lists journal)
    (justified : Justifies lists (journal ++ [.left s]) s) :
    Lawful lists (journal ++ [.left s]) := by
  intro early t late h
  rcases snoc_eq_append_cons h with ⟨middle, before, -⟩ | ⟨rfl, -, last⟩
  · exact lawful early t middle before
  · cases last
    exact justified

theorem Lawful.snoc (lawful : Lawful lists journal) (other : ∀ s, entry ≠ .left s) :
    Lawful lists (journal ++ [entry]) := by
  intro early s late h
  rcases snoc_eq_append_cons h with ⟨middle, before, -⟩ | ⟨-, -, last⟩
  · exact lawful early s middle before
  · exact absurd last.symm (other s)

theorem Lawful.hear (lawful : Lawful lists journal) {c : BackendCall} (answer : c.Answer) :
    Lawful lists (journal ++ [.answered c answer]) := lawful.snoc nofun

namespace Justifies

theorem empty : Justifies lists journal {} := ⟨by simp, nofun, .inl rfl⟩

theorem clear (lists : Int64 → Option (List ProjectMember)) (journal : List Entry) (s : Session) :
    Justifies lists journal s.clear :=
  ⟨fun some => absurd rfl some, nofun, .inl rfl⟩

theorem look (justified : Justifies lists journal s) (user : t.user = s.user)
    (members : t.projectMembers = s.projectMembers) :
    Justifies lists (journal ++ [.left t]) t where
  user_of_members := by
    rw [members, user]
    exact justified.user_of_members
  named u hu := (justified.named u (user ▸ hu)).snoc hu
  told := by
    rw [members, guarded?_left]
    exact justified.told

theorem hear (justified : Justifies lists journal s) {c : BackendCall} (other : c ≠ .currentUser)
    (answer : c.Answer) : Justifies lists (journal ++ [.answered c answer]) s where
  user_of_members := justified.user_of_members
  named u hu := (justified.named u hu).snoc other
  told := by
    rw [guarded?_answered]
    exact justified.told

theorem members_of_unknown (justified : Justifies lists journal s) (unknown : s.user = none) :
    s.projectMembers = [] := by
  by_contra some
  have known := justified.user_of_members some
  rw [unknown] at known
  cases known

theorem ask (justified : Justifies lists journal s) (unknown : s.user = none)
    (answer : BackendCall.currentUser.Answer) :
    Justifies lists (journal ++ [.answered .currentUser answer]) s where
  user_of_members := justified.user_of_members
  named u hu := by
    rw [unknown] at hu
    cases hu
  told := .inl (justified.members_of_unknown unknown)

theorem remember (justified : Justifies lists journal s) (unknown : s.user = none)
    (u : CurrentUser) :
    let named := { s with user := some u }
    Justifies lists (journal ++ [.answered .currentUser (.ok u)] ++ [.left named]) named where
  user_of_members _ := rfl
  named u' hu' := by
    cases hu'
    exact named_answered.snoc rfl
  told := .inl (justified.members_of_unknown unknown)

theorem forget (justified : Justifies lists journal s) (request : NavigationRequest) :
    Justifies lists (journal ++ [.guarded request] ++ [.left { s with projectMembers := [] }])
      { s with projectMembers := [] } where
  user_of_members some := absurd rfl some
  named u hu := by
    have started : Entry.Keeps u (.guarded request) := trivial
    exact ((justified.named u hu).snoc started).snoc hu
  told := .inl rfl

theorem tell (justified : Justifies lists journal s) (known : s.user.isSome)
    (guarded : guarded? journal = some request) {id : Int64} (own : request.projectId? = some id)
    {members : List ProjectMember} (list : lists id = some members) :
    Justifies lists (journal ++ [.left { s with projectMembers := members }])
      { s with projectMembers := members } where
  user_of_members _ := known
  named u hu := (justified.named u hu).snoc hu
  told := .inr ⟨request, id, by rw [guarded?_left, guarded], own, list⟩

end Justifies

end Journal

open Journal

def Mark.entries (request : NavigationRequest) (m : Mark) : List Entry :=
  if m = .memberGuard then [.guarded request] else []

def BackendCall.Honest (lists : Int64 → Option (List ProjectMember)) :
    (c : BackendCall) → c.Answer → Prop
  | .projectMembers id, .ok members => lists id = some members
  | _, _ => True

theorem Journal.Lawful.mark {lists : Int64 → Option (List ProjectMember)} {journal : List Entry}
    {request : NavigationRequest} (lawful : Lawful lists journal) (m : Mark) :
    Lawful lists (journal ++ m.entries request) := by
  unfold Mark.entries
  split
  · exact lawful.snoc nofun
  · simpa using lawful

namespace MemoryBackend

def listed (b : MemoryBackend) (id : Int64) : Option (List ProjectMember) := b.members.lookup id

variable {b : MemoryBackend} {lists : Int64 → Option (List ProjectMember)}

@[simp] theorem listed_answer (c : BackendCall) : (b.answer c).2.listed = b.listed := by
  cases c with
  | signOut =>
    cases fails : b.signOutFails <;> funext id <;> simp [answer, reply, record, fails, listed]
  | _ => rfl

theorem honest_answer (c : BackendCall) : c.Honest b.listed (b.answer c).1 := by
  cases c with
  | projectMembers id =>
    cases told : b.members.lookup id <;> simp [answer, reply, told, BackendCall.Honest, listed]
  | _ => trivial

end MemoryBackend

namespace MarkedFlow

def journal (request : NavigationRequest) (handle : Flow.Handler σ) :
    MarkedFlow α → Session → σ → List Entry
  | done _, _, _ => []
  | access update next, s, b =>
    .left (update s) :: (next (update s)).journal request handle (update s) b
  | notify _ next, s, b => next.journal request handle s b
  | ask c next, s, b =>
    let (answer, s, b) := handle c s b
    .answered c answer :: (next answer).journal request handle s b
  | mark m next, s, b => m.entries request ++ next.journal request handle s b

def Accounted (lists : Int64 → Option (List ProjectMember)) (request : NavigationRequest)
    (Q : List Entry → Session → α → Prop) : MarkedFlow α → List Entry → Session → Prop
  | done a, journal, s => Q journal s a
  | access update next, journal, s =>
    Justifies lists (journal ++ [.left (update s)]) (update s) ∧
      (next (update s)).Accounted lists request Q (journal ++ [.left (update s)]) (update s)
  | notify _ next, journal, s => next.Accounted lists request Q journal s
  | ask c next, journal, s =>
    ∀ answer, c.Honest lists answer →
      (next answer).Accounted lists request Q (journal ++ [.answered c answer]) s
  | mark m next, journal, s => next.Accounted lists request Q (journal ++ m.entries request) s

def Accounts (lists : Int64 → Option (List ProjectMember)) (request : NavigationRequest)
    (f : MarkedFlow α) : Prop :=
  ∀ journal s, Justifies lists journal s →
    f.Accounted lists request (fun journal s _ => Justifies lists journal s) journal s

variable {lists : Int64 → Option (List ProjectMember)} {request : NavigationRequest}
  {journal : List Entry} {s : Session}

theorem Accounted.bind {Q : List Entry → Session → α → Prop} {R : List Entry → Session → β → Prop}
    {f : MarkedFlow α} {k : α → MarkedFlow β} (hf : f.Accounted lists request Q journal s)
    (hk : ∀ journal s a, Q journal s a → (k a).Accounted lists request R journal s) :
    (f.bind k).Accounted lists request R journal s := by
  induction f generalizing journal s with
  | done a => exact hk _ _ a hf
  | access update next ih => exact ⟨hf.1, ih _ hf.2⟩
  | notify n next ih => exact ih hf
  | ask c next ih => exact fun answer honest => ih answer (hf answer honest)
  | mark m next ih => exact ih hf

theorem Accounted.mono {Q R : List Entry → Session → α → Prop} {f : MarkedFlow α}
    (hf : f.Accounted lists request Q journal s)
    (h : ∀ journal s a, Q journal s a → R journal s a) :
    f.Accounted lists request R journal s := by
  have bound := hf.bind (k := done) h
  rwa [bind_done] at bound

theorem Accounts.bind {f : MarkedFlow α} {k : α → MarkedFlow β} (hf : f.Accounts lists request)
    (hk : ∀ a, (k a).Accounts lists request) : (f.bind k).Accounts lists request :=
  fun journal s justified => (hf journal s justified).bind fun journal s a => hk a journal s

theorem accounts_done (a : α) : (done a).Accounts lists request := fun _ _ justified => justified

theorem Accounted.run {Q : List Entry → Session → α → Prop} {f : MarkedFlow α} {b : MemoryBackend}
    (hf : f.Accounted b.listed request Q journal s) (lawful : Lawful b.listed journal) :
    let r := f.plain.run MemoryBackend.handle s b
    let whole := journal ++ f.journal request MemoryBackend.handle s b
    Q whole r.session r.value ∧ Lawful b.listed whole ∧ r.backend.listed = b.listed := by
  induction f generalizing journal s b with
  | done a =>
    simp only [MarkedFlow.journal, List.append_nil]
    exact ⟨hf, lawful, rfl⟩
  | access update next ih =>
    have step := ih _ hf.2 (lawful.look hf.1)
    simp only [List.append_assoc] at step
    exact step
  | notify n next ih => exact ih hf lawful
  | ask c next ih =>
    have step := ih (b.answer c).1 (b := (b.answer c).2)
      (by rw [MemoryBackend.listed_answer]; exact hf _ (MemoryBackend.honest_answer c))
      (by rw [MemoryBackend.listed_answer]; exact lawful.hear _)
    simp only [List.append_assoc, MemoryBackend.listed_answer] at step
    exact step
  | mark m next ih =>
    have step := ih hf (lawful.mark m)
    simp only [List.append_assoc] at step
    exact step

end MarkedFlow

end ConsoleGateway
