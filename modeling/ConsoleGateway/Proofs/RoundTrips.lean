import ConsoleGateway.Model.Project
import ConsoleGateway.Model.Redirect
import ConsoleGateway.Model.Snapshot
import ConsoleGateway.Proofs.ValueReading
import ConsoleGateway.Settings.Config

namespace ConsoleGateway

open Decode Json

theorem CurrentUser.reads (u : CurrentUser) : Reads reader 1 u.toJson u := by
  have spells : Spells 0 fields [("id", .int u.id.toInt), ("username", .string u.username),
      ("admin", .bool u.admin)] (u.id, u.username, u.admin, ()) :=
    .cons (reads_int64 _) <| .cons (reads_string _) <| .cons (reads_flag _) .nil
  exact (spells.record "CurrentUser" (by decide)).map _

theorem ProjectMember.reads (m : ProjectMember) : Reads reader 1 m.toJson m := by
  have spells : Spells 0 fields [("id", .int m.id.toInt), ("project_id", .int m.projectId.toInt),
      ("entity_name", .string m.entityName), ("entity_type", .string m.entityType),
      ("role_id", .int m.roleId.toInt)]
      (m.id, m.projectId, m.entityName, m.entityType, m.roleId, ()) :=
    .cons (reads_int64 _) <| .cons (reads_int64 _) <| .cons (reads_string _) <|
      .cons (reads_string _) <| .cons (reads_int64 _) .nil
  exact (spells.record "ProjectMember" (by decide)).map _

namespace Project

theorem spells (p : Project) : Spells 0 fields p.jsonMembers
    (p.id, p.name, p.isPublic, p.currentUserRoleId, ()) :=
  .cons (reads_int64 _) <| .cons (reads_string _) <| .cons (reads_flag _) <|
    .cons (reads_int64 _) .nil

theorem reads (p : Project) : Reads reader 1 p.toJson p :=
  (p.spells.record "Project" (by decide)).map _

end Project

namespace ResolvedProject

variable {ctx : Decode.Context} {members : List (String × Value)}

theorem collect_others
    (others : ∀ m ∈ members, m.1 ∉ fields.names ∧ readable ctx.depth m.2.doc = true)
    (rest : List (Doc × Doc)) (slots : Slots [Bool, Bool, Option String]) :
    collect ctx (Value.memberDocs members ++ rest) slots =
      (collect ctx rest slots).map fun (slots, kept) =>
        (slots, Value.memberDocs members ++ kept) := by
  induction members with
  | nil => cases collected : collect ctx rest slots <;> simp [Value.memberDocs, collected] <;> rfl
  | cons m members ih =>
    obtain ⟨⟨other, kept⟩, hrest⟩ := List.forall_mem_cons.1 others
    simp only [Value.memberDocs, List.cons_append, collect, text?_pieces,
      Fields.put?_of_not_mem other, buffer_of_readable kept, ih hrest, bind, Except.bind]
    cases collect ctx rest slots <;> rfl

theorem collect_own (own : ∀ m ∈ members, m.1 ∈ fields.names)
    (slots : Slots [Bool, Bool, Option String]) :
    collect ctx (Value.memberDocs members) slots =
      (fields.collect ctx (Value.memberDocs members) slots).map fun slots => (slots, []) := by
  induction members generalizing slots with
  | nil => rfl
  | cons m members ih =>
    obtain ⟨named, hrest⟩ := List.forall_mem_cons.1 own
    obtain ⟨put, found⟩ := Option.isSome_iff_exists.1
      (Fields.put?_isSome named ctx m.2.doc slots)
    simp only [Value.memberDocs, collect, Fields.collect, text?_pieces, found]
    cases put with
    | error e => rfl
    | ok slots => exact ih hrest slots

theorem reads (r : ResolvedProject) : Reads reader 1 r.toJson r := by
  let access : List (String × Value) :=
    [("has_project_admin_role", .bool r.hasProjectAdminRole), ("is_member", .bool r.isMember),
      ("role_name", .ofOption .string r.roleName)]
  have spells : Spells 0 fields access (r.hasProjectAdminRole, r.isMember, r.roleName, ()) :=
    .cons (reads_bool _) <| .cons (reads_bool _) <|
      .cons (reads_ofOption reads_string (fun _ => nofun) _) .nil
  intro ctx deep
  obtain ⟨inner, enters, -⟩ := exists_enter deep
  have others : ∀ m ∈ r.project.jsonMembers,
      m.1 ∉ fields.names ∧ readable inner.depth m.2.doc = true := by
    have apart : ∀ name ∈ ["id", "name", "public", "current_user_role_id"],
        name ∉ fields.names := by decide
    refine List.forall_mem_cons.2 ⟨⟨apart _ (by simp), readable_int64 _ _⟩, ?_⟩
    refine List.forall_mem_cons.2 ⟨⟨apart _ (by simp), readable_string _ _⟩, ?_⟩
    refine List.forall_mem_cons.2 ⟨⟨apart _ (by simp), readable_bool _ _⟩, ?_⟩
    exact List.forall_mem_cons.2 ⟨⟨apart _ (by simp), readable_int64 _ _⟩, by simp⟩
  have docs : Value.memberDocs (r.project.jsonMembers ++ access) =
      Value.memberDocs r.project.jsonMembers ++ Value.memberDocs access := by
    simp only [Value.memberDocs_eq, List.map_append]
  have collected : collect inner (Value.memberDocs (r.project.jsonMembers ++ access))
      fields.empty = .ok (filled (r.hasProjectAdminRole, r.isMember, r.roleName, ()),
        Value.memberDocs r.project.jsonMembers) := by
    rw [docs, collect_others others, collect_own spells.mem_names,
      spells.collect (by decide) (Nat.zero_le _)]
    simp only [Except.map, List.append_nil]
  have project : Project.fields.ofMembers inner.kept (Value.memberDocs r.project.jsonMembers) true =
      .ok (r.project.id, r.project.name, r.project.isPublic, r.project.currentUserRoleId, ()) :=
    r.project.spells.ofMembers (by decide) (Nat.zero_le _)
  simp only [reader, toJson, Value.doc, enters, bind, Except.bind]
  rw [show collect inner _ _ = _ from collected]
  simp only [finish_filled, project, Bool.not_true, Bool.false_eq_true, if_false]
  rfl

end ResolvedProject

namespace Role

theorem reads_named {role : Role} {name : String} (listed : named.lookup name = some role)
    (plain : name ≠ "unrecognized") : Reads reader 1 (.string name) role := by
  refine (reads_variant_alone ?_ ?_).anywhere
  · simp [plain, listed]
  · simp [listed]

theorem reads (role : Role) : Reads reader 1 role.toJson role := by
  cases role with
  | projectAdmin => exact reads_named rfl (by decide)
  | developer => exact reads_named rfl (by decide)
  | guest => exact reads_named rfl (by decide)
  | noRole => exact reads_named rfl (by decide)
  | unrecognized id => exact reads_variant_payload rfl ((reads_int64 id).map _)

end Role

theorem SessionSnapshot.reads (s : SessionSnapshot) : Reads reader 3 s.toJson s := by
  have spells : Spells 2 fields [("user", .ofOption CurrentUser.toJson s.user),
      ("project_members", .array (s.projectMembers.map ProjectMember.toJson))]
      (s.user, s.projectMembers, ()) :=
    .cons ((reads_ofOption CurrentUser.reads (fun _ => nofun) s.user).mono (by decide)) <|
      .cons (reads_list fun m _ => m.reads) .nil
  exact (spells.record "SessionSnapshot" (by decide)).map _

namespace Redirect

theorem spells (r : Redirect) : Spells 2 fields [("path", .string r.path),
      ("query", .array (r.query.map fun (k, v) => .array [.string k, .string v]))]
      (r.path, r.query, ()) :=
  .cons (reads_string _).anywhere <|
    .cons (reads_list fun pair _ => reads_pair (reads_string pair.1) (reads_string pair.2)) .nil

theorem reads (r : Redirect) : Reads reader 3 r.toJson r :=
  (r.spells.record "Redirect" (by decide)).map _

end Redirect

namespace Decision

theorem reads (d : Decision) : Reads reader 4 d.toJson d := by
  intro ctx deep
  obtain ⟨inner, enters, deep⟩ := exists_enter deep
  cases d with
  | allow =>
    have kind : kindReader inner (.string (pieces "allow")) = .ok .allow :=
      reads_word rfl inner (Nat.zero_le _)
    have collected : collect inner [(.string (pieces "decision"), .string (pieces "allow"))]
        .nothing = .ok (.named .allow) := by
      simp only [collect, text?_pieces, kind, bind, Except.bind]
    simp only [reader, toJson, Value.doc, Value.memberDocs, enters, bind, Except.bind, collected]
    rfl
  | denyRedirect r =>
    have kind : kindReader inner (.string (pieces "deny_redirect")) = .ok .denyRedirect :=
      reads_word rfl inner (Nat.zero_le _)
    have content : contentReader .denyRedirect inner r.toJson.doc = .ok (.denyRedirect r) :=
      (r.reads.map Decision.denyRedirect) inner deep
    have collected : collect inner [(.string (pieces "decision"),
        .string (pieces "deny_redirect")), (.string (pieces "redirect"), r.toJson.doc)] .nothing =
          .ok (.complete (.denyRedirect r)) := by
      simp only [collect, text?_pieces, kind, content, bind, Except.bind]
    simp only [reader, toJson, Value.doc, Value.memberDocs, enters, bind, Except.bind, collected]
    rfl

end Decision

theorem Notice.reads (n : Notice) : Reads reader 0 n.toJson n := by
  cases n with
  | clearMessages => exact reads_word rfl
  | closeSearch => exact reads_word rfl
  | readOnly => exact reads_word rfl

theorem CacheConfig.reads (c : CacheConfig) : Reads reader 1 c.toJson c := by
  have spells : Spells 0 fields [("max_age", .int c.maxAge.toNat), ("immutable", .bool c.immutable),
      ("must_revalidate", .bool c.mustRevalidate)]
      (c.maxAge, c.immutable, c.mustRevalidate, ()) :=
    .cons (reads_uint32 _) <| .cons (reads_bool _) <| .cons (reads_bool _) .nil
  exact (spells.record "CacheConfig" (by decide)).map _

theorem BackendConfig.reads (c : BackendConfig) : Reads reader 1 c.toJson c := by
  have spells : Spells 0 fields [("base_url", .string c.baseUrl),
      ("session_cookie", .string c.sessionCookie), ("timeout_secs", .int c.timeoutSecs.toNat)]
      (c.baseUrl, c.sessionCookie, c.timeoutSecs, ()) :=
    .cons (reads_string _) <| .cons (reads_string _) <| .cons (reads_uint64 _) .nil
  exact (spells.record "BackendConfig" (by decide)).map _

theorem RoutesConfig.reads (c : RoutesConfig) : Reads reader 1 c.toJson c := by
  have spells : Spells 0 fields [("default_landing", .string c.defaultLanding)]
      (c.defaultLanding, ()) := .cons (reads_string _) .nil
  exact (spells.record "RoutesConfig" (by decide)).map _

theorem SessionConfig.reads (c : SessionConfig) : Reads reader 1 c.toJson c := by
  have spells : Spells 0 fields [("ttl_secs", .int c.ttlSecs.toInt),
      ("cleanup_interval_secs", .int c.cleanupIntervalSecs.toNat)]
      (c.ttlSecs, c.cleanupIntervalSecs, ()) :=
    .cons (reads_int64 _) <| .cons (reads_uint64 _) .nil
  exact (spells.record "SessionConfig" (by decide)).map _

theorem StaticFilesConfig.reads (c : StaticFilesConfig) : Reads reader 2 c.toJson c := by
  have spells : Spells 1 fields [("path", .string c.path), ("index", .string c.index),
      ("enable_compression", .bool c.enableCompression), ("cache", c.cache.toJson)]
      (c.path, c.index, c.enableCompression, c.cache, ()) :=
    .cons (reads_string _).anywhere <| .cons (reads_string _).anywhere <|
      .cons (reads_bool _).anywhere <| .cons c.cache.reads .nil
  exact (spells.record "StaticFilesConfig" (by decide)).map _

theorem Config.reads (c : Config) : Reads reader 3 c.toJson c := by
  have spells : Spells 2 fields [("server_addr", .string c.serverAddr),
      ("log_level", .string c.logLevel), ("read_only", .bool c.readOnly),
      ("backend", c.backend.toJson), ("routes", c.routes.toJson), ("session", c.session.toJson),
      ("static_files", c.staticFiles.toJson)]
      (c.serverAddr, c.logLevel, c.readOnly, c.backend, c.routes, c.session, c.staticFiles, ()) :=
    .cons (reads_string _).anywhere <| .cons (reads_string _).anywhere <|
      .cons (reads_bool _).anywhere <| .cons (c.backend.reads.mono (by decide)) <|
      .cons (c.routes.reads.mono (by decide)) <| .cons (c.session.reads.mono (by decide)) <|
      .cons c.staticFiles.reads .nil
  exact (spells.record "Config" (by decide)).map _

def RoundTrips (write : α → Value) (read : Reader α) : Prop :=
  ∀ a, Decode.ofText read (write a).render = .ok a

/-- All of the model comes back from its JSON text. -/
theorem model_roundTrips :
    RoundTrips CurrentUser.toJson CurrentUser.reader ∧
      RoundTrips Project.toJson Project.reader ∧
      RoundTrips ProjectMember.toJson ProjectMember.reader ∧
      RoundTrips (fun members => .array (members.map ProjectMember.toJson))
        (list ProjectMember.reader) ∧
      RoundTrips ResolvedProject.toJson ResolvedProject.reader ∧
      RoundTrips Role.toJson Role.reader ∧
      RoundTrips SessionSnapshot.toJson SessionSnapshot.reader ∧
      RoundTrips Redirect.toJson Redirect.reader ∧
      RoundTrips Decision.toJson Decision.reader ∧
      RoundTrips Notice.toJson Notice.reader ∧
      RoundTrips Config.toJson Config.reader :=
  ⟨fun u => u.reads.ofText (by decide), fun p => p.reads.ofText (by decide),
    fun m => m.reads.ofText (by decide),
    fun _ => (reads_list fun m _ => m.reads).ofText (by decide),
    fun r => r.reads.ofText (by decide), fun role => role.reads.ofText (by decide),
    fun s => s.reads.ofText (by decide), fun r => r.reads.ofText (by decide),
    fun d => d.reads.ofText (by decide), fun n => n.reads.ofText (by decide),
    fun c => c.reads.ofText (by decide)⟩

end ConsoleGateway
