import ConsoleGateway.Model.Project
import ConsoleGateway.Model.Redirect
import ConsoleGateway.Model.Snapshot
import ConsoleGateway.Proofs.Members
import ConsoleGateway.Proofs.WholeTexts
import ConsoleGateway.Settings.Config

namespace ConsoleGateway

open Decode Json

namespace Decode

/-- A model that is read from the members with its names, wherever they stand, each given once. The
names of its fields are listed in the order of the fields. -/
structure ReadsByName (read : Reader α) (spellings : List (List String)) : Prop where
  permuted {s s' : String} {members members' : List (Doc × Doc)}
    (text : IsText s (.object members true)) (text' : IsText s' (.object members' true))
    (same : members.Perm members') : (ofText read s).toOption = (ofText read s').toOption
  renamed {s s' : String} {before after : List (Doc × Doc)} {key key' d : Doc}
    {names : List String} {name name' : String} (listed : names ∈ spellings)
    (spelled : text? key = some name) (own : name ∈ names) (spelled' : text? key' = some name')
    (own' : name' ∈ names) (text : IsText s (.object (before ++ (key, d) :: after) true))
    (text' : IsText s' (.object (before ++ (key', d) :: after) true)) :
    (ofText read s).toOption = (ofText read s').toOption
  inserted {s s' : String} {before after : List (Doc × Doc)} {key d : Doc} {name : String}
    (spelled : text? key = some name) (other : name ∉ spellings.flatten)
    (text : IsText s (.object (before ++ after) true))
    (text' : IsText s' (.object (before ++ (key, d) :: after) true)) :
    (ofText read s).toOption = (ofText read s').toOption
  repeated {s : String} {members : List (Doc × Doc)} {names : List String}
    (listed : names ∈ spellings) (twice : 2 ≤ (given names members).length)
    (text : IsText s (.object members true)) : ∃ e, ofText read s = .error e
  positional {s s' : String} {members : List (Doc × Doc)} (ordered : InOrder spellings members)
    (text : IsText s (.array (members.map (·.2)) true))
    (text' : IsText s' (.object members true)) :
    (ofText read s).toOption = (ofText read s').toOption

variable {ts : List Type} {fields : Fields ts} {s s' : String}
  {members before after : List (Doc × Doc)} {key key' d : Doc} {names : List String}
  {name name' : String}

def Context.inText : Context := ⟨.text, 126⟩

theorem IsText.ofText_object (text : IsText s (.object members true)) (title : String)
    (fields : Fields ts) (f : Values ts → α) :
    (ofText ((record title fields).map f) s).toOption =
      ((fields.ofMembers .inText members true).toOption).map f := by
  rw [text.ofText_eq]
  exact toOption_map f (fields.ofMembers .inText members true)

theorem IsText.ofText_array {items : List Doc} (text : IsText s (.array items true))
    (title : String) (fields : Fields ts) (f : Values ts → α) :
    (ofText ((record title fields).map f) s).toOption =
      ((fields.ofItems title .inText items true).toOption).map f := by
  rw [text.ofText_eq]
  exact toOption_map f (fields.ofItems title .inText items true)

theorem IsText.all_admits (text : IsText s (.object (before ++ (key, d) :: after) true))
    (fields : Fields ts) (spelled : text? key = some name) :
    (before ++ (key, d) :: after).all fields.admits = (before ++ after).all fields.admits := by
  have skipped : Decode.skippable d = true := text.skippable_of_mem (m := (key, d)) (by simp)
  have admitted : fields.admits (key, d) = true := by simp [Fields.admits, spelled, skipped]
  rw [List.all_append, List.all_cons, admitted, Bool.true_and, List.all_append]

theorem Fields.given_rename (separate : fields.Separate) {names' : List String}
    (listed : names ∈ fields.spellings) (spelled : text? key = some name) (own : name ∈ names)
    (spelled' : text? key' = some name') (own' : name' ∈ names)
    (listed' : names' ∈ fields.spellings) (d : Doc) (after : List (Doc × Doc)) :
    given names' ((key, d) :: after) = given names' ((key', d) :: after) := by
  by_cases same : names' = names
  · subst same
    rw [given_cons_of_mem spelled own, given_cons_of_mem spelled' own']
  · have other : name ∉ names' := fun h => same (separate.eq_of_mem listed' listed h own)
    have other' : name' ∉ names' := fun h => same (separate.eq_of_mem listed' listed h own')
    rw [given_cons_of_not_mem spelled other, given_cons_of_not_mem spelled' other']

theorem exists_of_inOrder {spellings : List (List String)} (ordered : InOrder spellings members)
    {m : Doc × Doc} (h : m ∈ members) : ∃ names ∈ spellings, isNamed names m = true := by
  induction members generalizing spellings with
  | nil => cases h
  | cons first members ih =>
    cases spellings with
    | nil => cases ordered
    | cons names spellings =>
      rcases List.mem_cons.1 h with rfl | later
      · exact ⟨names, List.mem_cons_self, ordered.1⟩
      · obtain ⟨names, listed, own⟩ := ih ordered.2 later
        exact ⟨names, List.mem_cons_of_mem _ listed, own⟩

theorem Fields.admits_of_inOrder (ordered : InOrder fields.spellings members) :
    members.all fields.admits = true := by
  refine List.all_eq_true.2 fun m h => ?_
  obtain ⟨names, listed, own⟩ := exists_of_inOrder ordered h
  obtain ⟨name, spelled, named⟩ := isNamed_iff.1 own
  have known : name ∈ fields.names := by
    rw [names_eq]
    exact List.mem_flatten.2 ⟨names, listed, named⟩
  simp [admits, spelled, known]

theorem Fields.ofItems_of_inOrder (separate : fields.Separate) (alike : fields.Alike)
    (ordered : InOrder fields.spellings members) (title : String) (ctx : Context) :
    (fields.ofItems title ctx (members.map (·.2)) true).toOption =
      (fields.ofMembers ctx members true).toOption := by
  rw [ofItems_toOption, items?_of_inOrder separate alike ordered,
    ofMembers_toOption separate, admits_of_inOrder ordered]
  cases fields.values? ctx members <;> rfl

theorem IsText.ofText_congr {members' : List (Doc × Doc)} (separate : fields.Separate)
    (text : IsText s (.object members true)) (text' : IsText s' (.object members' true))
    (admitted : members.all fields.admits = members'.all fields.admits)
    (same : fields.values? .inText members = fields.values? .inText members') (title : String)
    (f : Values ts → α) : (ofText ((record title fields).map f) s).toOption =
      (ofText ((record title fields).map f) s').toOption := by
  rw [text.ofText_object, text'.ofText_object, Fields.ofMembers_toOption separate,
    Fields.ofMembers_toOption separate, admitted, same]

theorem IsText.refused_of_twice (separate : fields.Separate)
    (text : IsText s (.object members true)) (listed : names ∈ fields.spellings)
    (twice : 2 ≤ (given names members).length) (title : String) (f : Values ts → α) :
    ∃ e, ofText ((record title fields).map f) s = .error e := by
  have refused : (ofText ((record title fields).map f) s).toOption = none := by
    rw [text.ofText_object, Fields.ofMembers_toOption separate,
      Fields.values?_of_twice listed twice]
    simp
  cases read : ofText ((record title fields).map f) s with
  | error e => exact ⟨e, rfl⟩
  | ok a => simp [read] at refused

theorem readsByName_record (title : String) (f : Values ts → α) (separate : fields.Separate)
    (alike : fields.Alike) : ReadsByName ((record title fields).map f) fields.spellings where
  permuted text text' same :=
    text.ofText_congr separate text' same.all_eq (Fields.values?_perm same) title f
  renamed {_ _ before after key key' d _ _ _} listed spelled own spelled' own' text text' := by
    refine text.ofText_congr separate text' ?_
      (Fields.values?_congr fun names' listed' => ?_) title f
    · rw [text.all_admits fields spelled, text'.all_admits fields spelled']
    · rw [given_append, given_append,
        Fields.given_rename separate listed spelled own spelled' own' listed']
  inserted {_ _ before after key d name} spelled other text text' := by
    refine text.ofText_congr separate text' ?_ (Fields.values?_congr fun names listed => ?_) title f
    · rw [text'.all_admits fields spelled]
    · have skipped : name ∉ names := fun h => other (List.mem_flatten.2 ⟨names, listed, h⟩)
      rw [given_append, given_append, given_cons_of_not_mem spelled skipped]
  repeated listed twice text := text.refused_of_twice separate listed twice title f
  positional ordered text text' := by
    rw [text.ofText_array, text'.ofText_object, Fields.ofItems_of_inOrder separate alike ordered]

end Decode

/-- The records of the model and the sections of the configuration are read by name. -/
theorem model_readsByName :
    ReadsByName CurrentUser.reader
        [["id", "user_id"], ["username"], ["admin", "has_admin_role"]] ∧
      ReadsByName Project.reader
        [["id", "project_id"], ["name"], ["public"], ["current_user_role_id"]] ∧
      ReadsByName ProjectMember.reader
        [["id"], ["project_id"], ["entity_name"], ["entity_type"], ["role_id"]] ∧
      ReadsByName SessionSnapshot.reader [["user"], ["project_members"]] ∧
      ReadsByName Redirect.reader [["path"], ["query"]] ∧
      ReadsByName Config.reader
        [["server_addr"], ["log_level"], ["read_only"], ["backend"], ["routes"], ["session"],
          ["static_files"]] ∧
      ReadsByName BackendConfig.reader [["base_url"], ["session_cookie"], ["timeout_secs"]] ∧
      ReadsByName RoutesConfig.reader [["default_landing"]] ∧
      ReadsByName SessionConfig.reader [["ttl_secs"], ["cleanup_interval_secs"]] ∧
      ReadsByName StaticFilesConfig.reader
        [["path"], ["index"], ["enable_compression"], ["cache"]] ∧
      ReadsByName CacheConfig.reader [["max_age"], ["immutable"], ["must_revalidate"]] :=
  ⟨readsByName_record "CurrentUser" _ (by decide) ⟨rfl, rfl, rfl, trivial⟩,
    readsByName_record "Project" _ (by decide) ⟨rfl, rfl, rfl, rfl, trivial⟩,
    readsByName_record "ProjectMember" _ (by decide) ⟨rfl, rfl, rfl, rfl, rfl, trivial⟩,
    readsByName_record "SessionSnapshot" _ (by decide) ⟨rfl, rfl, trivial⟩,
    readsByName_record "Redirect" _ (by decide) ⟨rfl, rfl, trivial⟩,
    readsByName_record "Config" _ (by decide) ⟨rfl, rfl, rfl, rfl, rfl, rfl, rfl, trivial⟩,
    readsByName_record "BackendConfig" _ (by decide) ⟨rfl, rfl, rfl, trivial⟩,
    readsByName_record "RoutesConfig" _ (by decide) ⟨rfl, trivial⟩,
    readsByName_record "SessionConfig" _ (by decide) ⟨rfl, rfl, trivial⟩,
    readsByName_record "StaticFilesConfig" _ (by decide) ⟨rfl, rfl, rfl, rfl, trivial⟩,
    readsByName_record "CacheConfig" _ (by decide) ⟨rfl, rfl, rfl, trivial⟩⟩

example : ofText Project.reader "[7,\"library\"]" = .ok ⟨7, "library", false, 0⟩ := by
  decide +kernel

end ConsoleGateway
