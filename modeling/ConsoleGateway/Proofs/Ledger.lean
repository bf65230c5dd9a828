import Mathlib.Data.List.Induction
import Mathlib.Data.List.Perm.Subperm
import ConsoleGateway.Proofs.Interleaving

namespace ConsoleGateway

def Navigates (requests : List NavigationRequest) (i : Nat) : Prop :=
  ∃ r, requests[i]? = some r ∧ r.mode = .navigate

def Loads (requests : List NavigationRequest) (i : Nat) : Prop :=
  ∃ r, requests[i]? = some r ∧ r.mode = .load

theorem Loads.not_navigates {requests : List NavigationRequest} {i : Nat}
    (loads : Loads requests i) : ¬Navigates requests i := by
  obtain ⟨r, asked, load⟩ := loads
  rintro ⟨r', asked', navigate⟩
  rw [asked] at asked'
  cases asked'
  rw [load] at navigate
  cases navigate

namespace Log

def drawers (log : Log) : List Nat := log.filterMap fun | (i, .began _) => some i | _ => none

def begun (s : Session) (log : Log) : Nat := s.begun + log.drawers.length

def Wanted (s : Session) (log : Log) (i : Nat) : Prop :=
  ∀ token, (i, .began token) ∈ log → token.number = begun s log

/-- The navigation holds the newest token that has been drawn. -/
def Newest (log : Log) (i : Nat) : Prop :=
  ∃ token, (i, .began token) ∈ log ∧
    ∀ j token', (j, .began token') ∈ log → token'.number ≤ token.number

def Permits (s : Session) (requests : List NavigationRequest) (log : Log) (i : Nat) : Mark → Prop
  | .began token =>
    Navigates requests i ∧ (∀ m, (i, m) ∉ log) ∧ token.number = begun s log + 1
  | .entered _ => Wanted s log i
  | .settled outcome => outcome = .superseded ↔ ¬Wanted s log i

/-- An entry is in order when its navigation has drawn the token it needs and has not ended, and
when the entry itself may be made. -/
structure InOrder (s : Session) (requests : List NavigationRequest) (log : Log) (i : Nat)
    (m : Mark) : Prop where
  drawn : Navigates requests i → (∃ token, m = .began token) ∨ ∃ token, (i, .began token) ∈ log
  unsettled : ∀ outcome, (i, .settled outcome) ∉ log
  permitted : Permits s requests log i m

/-- Every entry was in order when it was made. -/
def Lawful (s : Session) (requests : List NavigationRequest) (log : Log) : Prop :=
  ∀ before i m after, log = before ++ (i, m) :: after → InOrder s requests before i m

variable {s : Session} {requests : List NavigationRequest} {log before after : Log} {i j : Nat}
  {m : Mark} {token token' : Token} {outcome : Outcome}

@[simp] theorem begun_nil : begun s [] = s.begun := rfl

theorem mem_drawers : i ∈ log.drawers ↔ ∃ token, (i, .began token) ∈ log := by
  rw [drawers, List.mem_filterMap]
  constructor
  · rintro ⟨⟨j, m⟩, hmem, hdraw⟩
    cases m <;> cases hdraw
    exact ⟨_, hmem⟩
  · rintro ⟨token, h⟩
    exact ⟨_, h, rfl⟩

theorem begun_append (log rest : Log) :
    begun s (log ++ rest) = begun s log + rest.drawers.length := by
  simp [begun, drawers, Nat.add_assoc]

theorem begun_began : begun s (log ++ [(i, .began token)]) = begun s log + 1 := begun_append _ _

theorem begun_entered (stage : Stage) : begun s (log ++ [(i, .entered stage)]) = begun s log :=
  begun_append _ _

theorem begun_settled (outcome : Outcome) :
    begun s (log ++ [(i, .settled outcome)]) = begun s log := begun_append _ _

namespace Lawful

theorem nil : Lawful s requests [] := by
  intro before i m after h
  simp at h

theorem snoc (lawful : Lawful s requests log) (inOrder : InOrder s requests log i m) :
    Lawful s requests (log ++ [(i, m)]) := by
  intro before j m' after h
  cases after using List.reverseRecOn with
  | nil =>
    obtain ⟨rfl, last⟩ := List.append_inj' h rfl
    cases last
    exact inOrder
  | append_singleton after last =>
    rw [← List.cons_append, ← List.append_assoc] at h
    exact lawful before j m' after (List.append_inj' h rfl).1

theorem of_append (lawful : Lawful s requests (log ++ after)) : Lawful s requests log := by
  rintro before i m rest rfl
  exact lawful before i m (rest ++ after) (by simp)

theorem split (lawful : Lawful s requests log) (h : (i, m) ∈ log) :
    ∃ before after, log = before ++ (i, m) :: after ∧ Lawful s requests before ∧
      InOrder s requests before i m := by
  obtain ⟨before, after, rfl⟩ := List.append_of_mem h
  exact ⟨before, after, rfl, lawful.of_append, lawful before i m after rfl⟩

theorem navigates (lawful : Lawful s requests log) (h : (i, .began token) ∈ log) :
    Navigates requests i := by
  obtain ⟨before, after, -, -, inOrder⟩ := lawful.split h
  exact inOrder.permitted.1

theorem token_range (lawful : Lawful s requests log) (h : (i, .began token) ∈ log) :
    s.begun < token.number ∧ token.number ≤ begun s log := by
  obtain ⟨before, after, rfl, -, inOrder⟩ := lawful.split h
  obtain ⟨-, -, number⟩ := inOrder.permitted
  have here : begun s (before ++ (i, .began token) :: after) =
      begun s before + 1 + (drawers after).length := by
    rw [List.append_cons, begun_append, begun_began]
  have base : s.begun ≤ begun s before := Nat.le_add_right _ _
  omega

theorem exists_token (lawful : Lawful s requests log) {number : Nat}
    (old : s.begun < number) (new : number ≤ begun s log) :
    ∃ i token, (i, .began token) ∈ log ∧ token.number = number := by
  induction log using List.reverseRecOn with
  | nil =>
    rw [begun_nil] at new
    omega
  | append_singleton log entry ih =>
    obtain ⟨i, m⟩ := entry
    by_cases earlier : number ≤ begun s log
    · obtain ⟨j, token, hj, hnumber⟩ := ih lawful.of_append earlier
      exact ⟨j, token, List.mem_append_left _ hj, hnumber⟩
    cases m with
    | began token =>
      obtain ⟨-, -, htoken⟩ := (lawful log i (.began token) [] rfl).permitted
      rw [begun_began] at new
      exact ⟨i, token, by simp, by omega⟩
    | entered stage =>
      rw [begun_entered] at new
      omega
    | settled outcome =>
      rw [begun_settled] at new
      omega

theorem draws (lawful : Lawful s requests log) (hi : (i, .began token) ∈ log)
    (hj : (j, .began token') ∈ log) :
    i = j ∧ token = token' ∨ i ≠ j ∧ token.number ≠ token'.number := by
  obtain ⟨before, after, rfl, early, inOrder⟩ := lawful.split hi
  obtain ⟨-, fresh, number⟩ := inOrder.permitted
  rcases List.mem_append.1 hj with hj | hj
  · have := (early.token_range hj).2
    refine .inr ⟨?_, by omega⟩
    rintro rfl
    exact fresh _ hj
  rcases List.mem_cons.1 hj with same | hj
  · cases same
    exact .inl ⟨rfl, rfl⟩
  · obtain ⟨between, rest, rfl⟩ := List.append_of_mem hj
    rw [← List.cons_append, ← List.append_assoc] at lawful
    obtain ⟨-, fresh', number'⟩ := (lawful _ j (.began token') rest rfl).permitted
    have := (lawful.of_append.token_range (List.mem_append_right before (.head _))).2
    refine .inr ⟨?_, by omega⟩
    rintro rfl
    exact fresh' (.began token) (by simp)

theorem nodup_drawers (lawful : Lawful s requests log) : log.drawers.Nodup := by
  induction log using List.reverseRecOn with
  | nil => exact .nil
  | append_singleton log entry ih =>
    obtain ⟨i, m⟩ := entry
    have distinct := ih lawful.of_append
    cases m with
    | began token =>
      obtain ⟨-, fresh, -⟩ := (lawful log i (.began token) [] rfl).permitted
      have new : i ∉ drawers log := by
        intro h
        obtain ⟨token', h⟩ := mem_drawers.1 h
        exact fresh _ h
      simpa [drawers] using List.nodup_append.2 ⟨distinct, by simp, by
        rintro j hj k hk rfl
        exact new (List.mem_singleton.1 hk ▸ hj)⟩
    | entered stage => simpa [drawers] using distinct
    | settled outcome => simpa [drawers] using distinct

/-- With fewer than 2 ^ 64 navigations within the page on a new session, all numbers fit into 64
bits. -/
theorem begun_le (lawful : Lawful s requests log) :
    begun s log ≤ s.begun + requests.countP (·.mode = .navigate) := by
  have members : log.drawers ⊆ (requests.zipIdx.filter (·.1.mode = .navigate)).map Prod.snd := by
    intro i hi
    obtain ⟨token, h⟩ := mem_drawers.1 hi
    obtain ⟨r, asked, navigate⟩ := lawful.navigates h
    exact List.mem_map.2 ⟨(r, i), by simp [List.mk_mem_zipIdx_iff_getElem?, asked, navigate], rfl⟩
  have counted : (requests.zipIdx.filter (·.1.mode = .navigate)).length =
      requests.countP (·.mode = .navigate) := by
    rw [← List.countP_eq_length_filter]
    conv_rhs => rw [← List.zipIdx_map_fst 0 requests, List.countP_map]
    rfl
  have bound := (lawful.nodup_drawers.subperm members).length_le
  rw [List.length_map, counted] at bound
  exact Nat.add_le_add_left bound s.begun

theorem newest (lawful : Lawful s requests log) (drawn : ∃ token, (i, .began token) ∈ log)
    (wanted : Wanted s log i) : log.Newest i := by
  obtain ⟨token, htoken⟩ := drawn
  refine ⟨token, htoken, fun j token' hj => ?_⟩
  rw [wanted token htoken]
  exact (lawful.token_range hj).2

theorem newest_of_delivered (lawful : Lawful s requests log)
    (inOrder : InOrder s requests log i (.settled outcome)) (delivered : outcome ≠ .superseded)
    (navigates : Navigates requests i) : log.Newest i := by
  refine lawful.newest (by simpa using inOrder.drawn navigates) ?_
  by_contra unwanted
  exact delivered (inOrder.permitted.2 unwanted)

theorem overtaken (lawful : Lawful s requests log) (unwanted : ¬Wanted s log i) :
    ∃ j token token', Navigates requests i ∧ Navigates requests j ∧ (i, .began token) ∈ log ∧
      (j, .began token') ∈ log ∧ token.number < token'.number := by
  obtain ⟨token, htoken, older⟩ : ∃ token, (i, .began token) ∈ log ∧
      token.number ≠ begun s log := by
    simpa [Wanted] using unwanted
  obtain ⟨low, high⟩ := lawful.token_range htoken
  obtain ⟨j, token', hj, newest⟩ := lawful.exists_token (by omega) (Nat.le_refl (begun s log))
  exact ⟨j, token, token', lawful.navigates htoken, lawful.navigates hj, htoken, hj, by omega⟩

end Lawful

end Log

/-- What is promised of the order in which navigations begin, go on and end. -/
structure NewestWins (requests : List NavigationRequest) (log : Log) : Prop where
  -- Only navigations within the page draw tokens, and tokens tell who began first.
  begins : ∀ (before : Log) i token after, log = before ++ (i, .began token) :: after →
    Navigates requests i ∧ ∀ j token', (j, .began token') ∈ before → token'.number < token.number
  -- A load is never superseded.
  loads : ∀ i, Loads requests i → (i, .settled .superseded) ∉ log
  -- Who is superseded has been overtaken by a navigation within the page, never by a load.
  overtaken : ∀ (before : Log) i after, log = before ++ (i, .settled .superseded) :: after →
    ∃ j token token', Navigates requests i ∧ Navigates requests j ∧ (i, .began token) ∈ before ∧
      (j, .began token') ∈ before ∧ token.number < token'.number
  -- Any other answer comes from the navigation that holds the newest token at that moment.
  delivers : ∀ (before : Log) i outcome after, log = before ++ (i, .settled outcome) :: after →
    outcome ≠ .superseded → Navigates requests i → before.Newest i
  -- Such answers come in the order in which their navigations began.
  ordered : ∀ (before : Log) i outcome between j outcome' after,
    log = before ++ (i, .settled outcome) :: between ++ (j, .settled outcome') :: after →
    outcome ≠ .superseded → outcome' ≠ .superseded → Navigates requests i →
      Navigates requests j → ∃ token token', (i, .began token) ∈ log ∧ (j, .began token') ∈ log ∧
        token.number < token'.number
  -- The navigation that began last is not superseded.
  last : ∀ i, log.Newest i → (i, .settled .superseded) ∉ log
  -- A guard or a lookup starts only for the navigation that holds the newest token at that moment.
  enters : ∀ (before : Log) i stage after, log = before ++ (i, .entered stage) :: after →
    Navigates requests i → before.Newest i

theorem Log.Lawful.newestWins {s : Session} {requests : List NavigationRequest} {log : Log}
    (lawful : log.Lawful s requests) : NewestWins requests log where
  begins := by
    rintro before i token after rfl
    obtain ⟨navigates, -, number⟩ := (lawful before i (.began token) after rfl).permitted
    refine ⟨navigates, fun j token' hj => ?_⟩
    have := (lawful.of_append.token_range hj).2
    omega
  loads := by
    intro i loads h
    obtain ⟨before, after, -, early, inOrder⟩ := lawful.split h
    obtain ⟨-, -, -, navigates, -⟩ := early.overtaken (inOrder.permitted.1 rfl)
    exact loads.not_navigates navigates
  overtaken := by
    rintro before i after rfl
    exact lawful.of_append.overtaken ((lawful before i _ after rfl).permitted.1 rfl)
  delivers := by
    rintro before i outcome after rfl delivered navigates
    exact lawful.of_append.newest_of_delivered (lawful before i _ after rfl) delivered navigates
  ordered := by
    rintro before i outcome between j outcome' after rfl hi hj navigates navigates'
    have settled := lawful (before ++ (i, .settled outcome) :: between) j _ after rfl
    have early := lawful.of_append
    have settledFirst := early before i _ between rfl
    obtain ⟨token, htoken, -⟩ := early.of_append.newest_of_delivered settledFirst hi navigates
    obtain ⟨token', htoken', newest⟩ := early.newest_of_delivered settled hj navigates'
    have drawn := List.mem_append_left ((i, .settled outcome) :: between) htoken
    have older := newest i token drawn
    refine ⟨token, token', List.mem_append_left _ drawn, List.mem_append_left _ htoken', ?_⟩
    rcases early.draws drawn htoken' with ⟨rfl, -⟩ | ⟨-, distinct⟩
    · exact absurd (by simp) (settled.unsettled outcome)
    · omega
  last := by
    rintro i ⟨token, htoken, newest⟩ h
    obtain ⟨before, after, rfl, early, inOrder⟩ := lawful.split h
    obtain ⟨j, own, token', -, -, hown, hj, older⟩ := early.overtaken (inOrder.permitted.1 rfl)
    have := newest j token' (List.mem_append_left _ hj)
    rcases lawful.draws htoken (List.mem_append_left _ hown) with ⟨-, rfl⟩ | ⟨distinct, -⟩
    · omega
    · exact distinct rfl
  enters := by
    rintro before i stage after rfl navigates
    have inOrder := lawful before i _ after rfl
    refine lawful.of_append.newest ?_ inOrder.permitted
    simpa using inOrder.drawn navigates

end ConsoleGateway
