import ActionBridge.Gateway.Directory
import ActionBridge.Proofs.ByteOrder
import ActionBridge.Proofs.Pieces
import ActionBridge.Proofs.RegistryRuns

namespace ActionBridge

namespace NameMap

variable {α : Type}

theorem get?_foldl_insert {entries : List (String × α)} (hn : (entries.map (·.1)).Nodup)
    {m : NameMap α} {key : String} {value : α} :
    (entries.foldl (fun m e => m.insert e.1 e.2) m).get? key = some value ↔
      (key, value) ∈ entries ∨ key ∉ entries.map (·.1) ∧ m.get? key = some value := by
  induction entries generalizing m with
  | nil => simp
  | cons e entries ih =>
    obtain ⟨k, v⟩ := e
    obtain ⟨hnew, hn⟩ := List.nodup_cons.1 hn
    rw [List.foldl_cons, ih hn, get?_insert]
    by_cases hk : key = k
    · subst hk
      have hnot : (key, value) ∉ entries := fun h =>
        hnew (List.mem_map.2 ⟨_, h, rfl⟩)
      simp [hnot, hnew, eq_comm]
    · simp [hk]

end NameMap

namespace Directory

/-- A file of an action: it has the name of the action before its extension, and it does not hold
the settings. -/
def IsActionFile (file name : String) : Prop :=
  file = name ++ ".json" ∧ name ≠ "" ∧ file ≠ settingsFile

theorem actionName?_eq_some_iff {file name : String} :
    actionName? file = some name ↔ IsActionFile file name := by
  unfold actionName? IsActionFile
  by_cases hs : file = settingsFile
  · simp [hs]
  rw [if_neg hs]
  constructor
  · intro h
    cases hb : Text.beforeEnd? ".json".toList file.toList with
    | none =>
      rw [hb] at h
      cases h
    | some cs =>
      rw [hb] at h
      cases cs with
      | nil => cases h
      | cons c cs =>
        cases h
        have hfile := Text.eq_append_of_beforeEnd? hb
        refine ⟨String.toList_inj.1 ?_, by simp, hs⟩
        rw [hfile, String.toList_append, String.toList_ofList, String.toList_ofList]
  · rintro ⟨hfile, hne, -⟩
    have hb : Text.beforeEnd? ".json".toList file.toList = some name.toList := by
      rw [hfile, String.toList_append, Text.beforeEnd?_append]
    obtain ⟨c, cs, hcs⟩ := List.exists_cons_of_ne_nil (mt String.toList_eq_nil_iff.1 hne)
    rw [hb, hcs, Option.some.injEq, ← String.toList_inj, String.toList_ofList, hcs]

def HoldsRules (name text : String) (rules : ActionRules) : Prop :=
  ∃ document, Tree.read? text = some document ∧ ActionRules.ofTree name document = .ok rules

inductive Refuses (path name text : String) : GatewayError → Prop where
  | malformed (h : Tree.read? text = none) : Refuses path name text (.fileMalformed path)
  | refused {document : Tree} {cause : GatewayError} (hr : Tree.read? text = some document)
      (h : ActionRules.ofTree name document = .error cause) :
      Refuses path name text (.fileRefused path cause)

def fileRules (path name : String) (content : FileContent) : Except GatewayError ActionRules := do
  let text ← content.mapError .unreadable
  match Tree.read? text with
  | none => .error (.fileMalformed path)
  | some document => (ActionRules.ofTree name document).mapError (.fileRefused path)

theorem fileRules_ok (path name text : String) :
    fileRules path name (.ok text) =
      match Tree.read? text with
      | none => .error (.fileMalformed path)
      | some document => (ActionRules.ofTree name document).mapError (.fileRefused path) :=
  rfl

theorem fileRules_eq_ok_iff {path name text : String} {rules : ActionRules} :
    fileRules path name (.ok text) = .ok rules ↔ HoldsRules name text rules := by
  rw [fileRules_ok, HoldsRules]
  cases Tree.read? text with
  | none => simp
  | some document => cases h : ActionRules.ofTree name document <;> simp [Except.mapError, h]

theorem refuses_of_fileRules {path name text : String} {e : GatewayError}
    (h : fileRules path name (.ok text) = .error e) : Refuses path name text e := by
  rw [fileRules_ok] at h
  cases hr : Tree.read? text with
  | none =>
    simp only [hr] at h
    cases h
    exact .malformed hr
  | some document =>
    simp only [hr] at h
    cases ho : ActionRules.ofTree name document with
    | ok rules =>
      rw [ho] at h
      cases h
    | error cause =>
      rw [ho] at h
      cases h
      exact .refused hr ho

theorem insertFile_eq (path name : String) (content : FileContent) (r : Registry) :
    insertFile path name content r =
      (fileRules path name content).map fun rules => ⟨r.actions.insert name rules⟩ := by
  cases content with
  | error message => rfl
  | ok text =>
    have hinsert : insertFile path name (.ok text) r =
        match Tree.read? text with
        | none => .error (.fileMalformed path)
        | some document => (r.insert name document).mapError (.fileRefused path) := rfl
    rw [hinsert, fileRules_ok]
    cases Tree.read? text with
    | none => rfl
    | some document =>
      cases h : ActionRules.ofTree name document with
      | ok rules => simp only [Registry.insert_of_ok h, h, Except.mapError, Except.map]
      | error e => simp only [Registry.insert_of_error h, h, Except.mapError, Except.map]

def rulesIn (directory : String) (f : String × String × FileContent) :
    Except GatewayError ActionRules :=
  fileRules (join directory f.1) f.2.1 f.2.2

def documents (files : List (String × String × FileContent)) : List (String × Tree) :=
  files.filterMap fun f => (f.2.2.toOption.bind Tree.read?).map (f.2.1, ·)

theorem insertFiles_cons (directory : String) (f : String × String × FileContent)
    (files : List (String × String × FileContent)) (r : Registry) :
    insertFiles directory (f :: files) r =
      (rulesIn directory f).bind fun rules =>
        insertFiles directory files ⟨r.actions.insert f.2.1 rules⟩ := by
  have hcons : insertFiles directory (f :: files) r =
      (insertFile (join directory f.1) f.2.1 f.2.2 r).bind (insertFiles directory files) := rfl
  rw [hcons, insertFile_eq, rulesIn]
  cases fileRules (join directory f.1) f.2.1 f.2.2 <;> rfl

theorem insertFiles_of_rules {directory : String} {files : List (String × String × FileContent)}
    (h : ∀ f ∈ files, ∃ rules, rulesIn directory f = .ok rules) (r : Registry) :
    insertFiles directory files r = .ok (r.afterInserts (documents files)) := by
  induction files generalizing r with
  | nil => rfl
  | cons f files ih =>
    obtain ⟨⟨rules, hrules⟩, hfiles⟩ := List.forall_mem_cons.1 h
    rw [insertFiles_cons, hrules]
    change insertFiles directory files _ = _
    rw [ih hfiles]
    obtain ⟨file, name, content⟩ := f
    cases content with
    | error message => cases hrules
    | ok text =>
      obtain ⟨document, hread, hof⟩ := fileRules_eq_ok_iff.1 hrules
      have hdocuments : documents ((file, name, .ok text) :: files) =
          (name, document) :: documents files :=
        List.filterMap_cons_some (by simp [Except.toOption, hread])
      rw [hdocuments, Registry.afterInserts, Registry.afterInserts, List.foldl_cons,
        Registry.afterInsert_of_ok hof]

theorem insertFiles_stops {directory : String} {files : List (String × String × FileContent)}
    {r : Registry} {e : GatewayError} (h : insertFiles directory files r = .error e) :
    ∃ before f after, files = before ++ f :: after ∧ rulesIn directory f = .error e ∧
      ∀ f' ∈ before, ∃ rules, rulesIn directory f' = .ok rules := by
  induction files generalizing r with
  | nil => cases h
  | cons f files ih =>
    rw [insertFiles_cons] at h
    cases hf : rulesIn directory f with
    | error cause =>
      rw [hf] at h
      cases h
      exact ⟨[], f, files, rfl, hf, by simp⟩
    | ok rules =>
      rw [hf] at h
      obtain ⟨before, f', after, hfiles, hstop, hbefore⟩ := ih h
      exact ⟨f :: before, f', after, by rw [hfiles, List.cons_append], hstop,
        List.forall_mem_cons.2 ⟨⟨rules, hf⟩, hbefore⟩⟩

theorem rules_of_insertFiles {directory : String} {files : List (String × String × FileContent)}
    {r r' : Registry} (h : insertFiles directory files r = .ok r') :
    ∀ f ∈ files, ∃ rules, rulesIn directory f = .ok rules := by
  induction files generalizing r with
  | nil => simp
  | cons f files ih =>
    rw [insertFiles_cons] at h
    cases hf : rulesIn directory f with
    | error e =>
      rw [hf] at h
      cases h
    | ok rules =>
      rw [hf] at h
      exact List.forall_mem_cons.2 ⟨⟨rules, hf⟩, ih h⟩

def actionsIn (files : List (String × FileContent)) : List (String × String × FileContent) :=
  files.filterMap fun f => (actionName? f.1).map fun name => (f.1, name, f.2)

theorem mem_actionsIn_iff {files : List (String × FileContent)} {file name : String}
    {content : FileContent} :
    (file, name, content) ∈ actionsIn files ↔ (file, content) ∈ files ∧ IsActionFile file name := by
  simp only [actionsIn, List.mem_filterMap, Option.map_eq_some_iff, Prod.mk.injEq,
    ← actionName?_eq_some_iff]
  constructor
  · rintro ⟨f, hf, n, hn, rfl, rfl, rfl⟩
    exact ⟨hf, hn⟩
  · rintro ⟨hf, hn⟩
    exact ⟨(file, content), hf, name, hn, rfl, rfl, rfl⟩

section DistinctFiles

variable {files : List (String × FileContent)} (hn : (files.map (·.1)).Nodup)
include hn

theorem actionsIn_files_nodup : ((actionsIn files).map (·.1)).Nodup := by
  refine List.pairwise_map.2 (List.pairwise_filterMap.2 ((List.pairwise_map.1 hn).imp ?_))
  intro f f' hne e he e' he'
  obtain ⟨name, -, rfl⟩ := Option.map_eq_some_iff.1 he
  obtain ⟨name', -, rfl⟩ := Option.map_eq_some_iff.1 he'
  exact hne

theorem actionsIn_names_nodup : ((actionsIn files).map (·.2.1)).Nodup := by
  refine List.pairwise_map.2 ((List.pairwise_map.1 (actionsIn_files_nodup hn)).imp_of_mem ?_)
  intro f f' hf hf' hne heq
  apply hne
  rw [(mem_actionsIn_iff.1 hf).2.1, (mem_actionsIn_iff.1 hf').2.1, heq]

theorem actionFiles_get?_eq_some_iff {file name : String} {content : FileContent} :
    (actionFiles files).get? file = some (name, content) ↔
      (file, content) ∈ files ∧ IsActionFile file name := by
  have hfold : actionFiles files =
      (actionsIn files).foldl (fun m e => m.insert e.1 e.2) .empty := by
    rw [actionFiles, actionsIn, List.foldl_filterMap]
    congr 1
    funext found ⟨file, content⟩
    cases h : actionName? file <;> simp [h]
  rw [hfold, NameMap.get?_foldl_insert (actionsIn_files_nodup hn), mem_actionsIn_iff]
  exact or_iff_left fun h => by cases h.2

theorem actionFiles_perm : (actionFiles files).entries.Perm (actionsIn files) := by
  refine (List.perm_ext_iff_of_nodup (.of_map _ (actionFiles files).names_nodup)
    (.of_map _ (actionsIn_files_nodup hn))).2 ?_
  rintro ⟨file, name, content⟩
  rw [NameMap.mem_entries_iff, actionFiles_get?_eq_some_iff hn, mem_actionsIn_iff]

theorem actionFiles_eq_of_perm {order : List (String × FileContent)} (h : order.Perm files) :
    actionFiles order = actionFiles files := by
  refine NameMap.ext_get? fun file => Option.ext fun found => ?_
  rw [actionFiles_get?_eq_some_iff ((h.map _).nodup_iff.2 hn), actionFiles_get?_eq_some_iff hn,
    h.mem_iff]

end DistinctFiles

def readable (files : List (String × String)) : List (String × FileContent) :=
  files.map fun f => (f.1, .ok f.2)

theorem mem_readable_iff {files : List (String × String)} {file : String} {content : FileContent} :
    (file, content) ∈ readable files ↔ ∃ text, content = .ok text ∧ (file, text) ∈ files := by
  constructor
  · intro h
    obtain ⟨f, hf, heq⟩ := List.mem_map.1 h
    cases heq
    exact ⟨f.2, rfl, hf⟩
  · rintro ⟨text, rfl, h⟩
    exact List.mem_map.2 ⟨(file, text), h, rfl⟩

theorem readable_perm {files order : List (String × String)} (h : order.Perm files) :
    (readable order).Perm (readable files) :=
  h.map _

theorem readable_nodup {files : List (String × String)} (hn : (files.map (·.1)).Nodup) :
    ((readable files).map (·.1)).Nodup := by
  rw [readable, List.map_map]
  exact hn

def AllHoldRules (files : List (String × String)) : Prop :=
  ∀ file text name, (file, text) ∈ files → IsActionFile file name →
    ∃ rules, HoldsRules name text rules

structure Loaded (files : List (String × String)) (r : Registry) : Prop where
  names : ∀ name, name ∈ r.names ↔ ∃ file text, (file, text) ∈ files ∧ IsActionFile file name
  increasing : r.names.Pairwise ByteBefore
  listed : r.list.map (·.name) = r.names
  listed_get : ∀ rules ∈ r.list, r.get rules.name = .ok rules
  get : ∀ file text name, (file, text) ∈ files → IsActionFile file name →
    ∃ rules, HoldsRules name text rules ∧ r.get name = .ok rules
  anyOrder : ∀ order : List (String × String), order.Perm files →
    (documents (actionsIn (readable order))).foldlM (fun r call => r.insert call.1 call.2)
      Registry.empty = .ok r

structure FirstRefused (directory : String) (files : List (String × String)) (e : GatewayError)
    (file text name : String) : Prop where
  mem : (file, text) ∈ files
  action : IsActionFile file name
  refuses : Refuses (join directory file) name text e
  first : ∀ file' text' name', (file', text') ∈ files → IsActionFile file' name' →
    (¬ ∃ rules, HoldsRules name' text' rules) → file' = file ∨ ByteBefore file file'

theorem mem_documents_iff {files : List (String × String × FileContent)} {name : String}
    {document : Tree} :
    (name, document) ∈ documents files ↔
      ∃ file text, (file, name, .ok text) ∈ files ∧ Tree.read? text = some document := by
  simp only [documents, List.mem_filterMap, Option.map_eq_some_iff, Option.bind_eq_some_iff,
    Prod.mk.injEq]
  constructor
  · rintro ⟨⟨file, _, content⟩, hf, _, ⟨text, htext, hread⟩, rfl, rfl⟩
    cases content with
    | error message => cases htext
    | ok text' =>
      obtain rfl := Option.some.inj htext
      exact ⟨file, text', hf, hread⟩
  · rintro ⟨file, text, hf, hread⟩
    exact ⟨(file, name, .ok text), hf, document, ⟨text, rfl, hread⟩, rfl, rfl⟩

theorem documents_names_nodup {files : List (String × String × FileContent)}
    (hn : (files.map (·.2.1)).Nodup) : ((documents files).map (·.1)).Nodup := by
  refine List.pairwise_map.2 (List.pairwise_filterMap.2 ((List.pairwise_map.1 hn).imp ?_))
  intro f f' hne e he e' he'
  obtain ⟨_, -, rfl⟩ := Option.map_eq_some_iff.1 he
  obtain ⟨_, -, rfl⟩ := Option.map_eq_some_iff.1 he'
  exact hne

theorem mem_documents_actionsIn_iff {order : List (String × String)} (h : order.Perm files)
    {name : String} {document : Tree} :
    (name, document) ∈ documents (actionsIn (readable order)) ↔
      ∃ file text, (file, text) ∈ files ∧ IsActionFile file name ∧
        Tree.read? text = some document := by
  simp only [mem_documents_iff, mem_actionsIn_iff, mem_readable_iff, Except.ok.injEq, h.mem_iff]
  constructor
  · rintro ⟨file, text, ⟨⟨_, rfl, hmem⟩, haction⟩, hread⟩
    exact ⟨file, text, hmem, haction, hread⟩
  · rintro ⟨file, text, hmem, haction, hread⟩
    exact ⟨file, text, ⟨⟨text, rfl, hmem⟩, haction⟩, hread⟩

section ReadableFiles

variable {files : List (String × String)} (hn : (files.map (·.1)).Nodup)
include hn

theorem mem_actionFiles_readable_iff {f : String × String × FileContent} :
    f ∈ (actionFiles (readable files)).entries ↔
      ∃ text, f.2.2 = .ok text ∧ (f.1, text) ∈ files ∧ IsActionFile f.1 f.2.1 := by
  obtain ⟨file, name, content⟩ := f
  rw [(actionFiles_perm (readable_nodup hn)).mem_iff, mem_actionsIn_iff, mem_readable_iff]
  constructor
  · rintro ⟨⟨text, hcontent, hmem⟩, haction⟩
    exact ⟨text, hcontent, hmem, haction⟩
  · rintro ⟨text, hcontent, hmem, haction⟩
    exact ⟨⟨text, hcontent, hmem⟩, haction⟩

theorem allHoldRules_iff (directory : String) :
    AllHoldRules files ↔
      ∀ f ∈ (actionFiles (readable files)).entries, ∃ rules, rulesIn directory f = .ok rules := by
  constructor
  · rintro h ⟨file, name, content⟩ hf
    obtain ⟨text, rfl, hmem, haction⟩ := (mem_actionFiles_readable_iff hn).1 hf
    obtain ⟨rules, hrules⟩ := h file text name hmem haction
    exact ⟨rules, fileRules_eq_ok_iff.2 hrules⟩
  · intro h file text name hmem haction
    obtain ⟨rules, hrules⟩ := h (file, name, .ok text)
      ((mem_actionFiles_readable_iff hn).2 ⟨text, rfl, hmem, haction⟩)
    exact ⟨rules, fileRules_eq_ok_iff.1 hrules⟩

theorem afterInserts_documents_eq {order : List (String × FileContent)}
    (h : order.Perm (readable files)) (r : Registry) :
    r.afterInserts (documents (actionsIn order)) =
      r.afterInserts (documents (actionFiles (readable files)).entries) := by
  have hperm : (actionsIn order).Perm (actionFiles (readable files)).entries :=
    (h.filterMap _).trans (actionFiles_perm (readable_nodup hn)).symm
  refine Registry.afterInserts_perm (documents_names_nodup ?_) (hperm.filterMap _) r
  exact actionsIn_names_nodup ((h.map _).nodup_iff.2 (readable_nodup hn))

theorem load_of_allHoldRules (directory : String) (h : AllHoldRules files) :
    load directory (readable files) =
      .ok (Registry.empty.afterInserts (documents (actionsIn (readable files)))) := by
  rw [load, insertFiles_of_rules ((allHoldRules_iff hn directory).1 h),
    afterInserts_documents_eq hn (.refl _)]

theorem loaded_of_allHoldRules (h : AllHoldRules files) :
    Loaded files (Registry.empty.afterInserts (documents (actionsIn (readable files)))) := by
  have hdistinct : ((documents (actionsIn (readable files))).map (·.1)).Nodup :=
    documents_names_nodup (actionsIn_names_nodup (readable_nodup hn))
  have hnamed : (Registry.empty.afterInserts (documents (actionsIn (readable files)))).WellNamed :=
    Registry.wellNamed_empty.afterInserts _
  have hget : ∀ file text name, (file, text) ∈ files → IsActionFile file name →
      ∃ rules, HoldsRules name text rules ∧
        (Registry.empty.afterInserts (documents (actionsIn (readable files)))).get name =
          .ok rules := by
    intro file text name hmem haction
    obtain ⟨rules, document, hread, hof⟩ := h file text name hmem haction
    refine ⟨rules, ⟨document, hread, hof⟩, Registry.lastInserted_iff.1 ?_⟩
    exact Registry.lastInserted_of_mem hdistinct
      ((mem_documents_actionsIn_iff (.refl files)).2 ⟨file, text, hmem, haction, hread⟩) hof
  refine ⟨fun name => ?_, ?_, hnamed.list_names, fun _ => hnamed.get_of_mem_list, hget, ?_⟩
  · rw [Registry.names, NameMap.mem_names_iff]
    constructor
    · rintro ⟨rules, hrules⟩
      obtain ⟨before, document, after, hcalls, -, -⟩ :=
        Registry.lastInserted_iff.2 (Registry.get_eq_ok_iff.2 hrules)
      obtain ⟨file, text, hmem, haction, -⟩ := (mem_documents_actionsIn_iff (.refl files)).1
        (hcalls ▸ List.mem_append_right before List.mem_cons_self)
      exact ⟨file, text, hmem, haction⟩
    · rintro ⟨file, text, hmem, haction⟩
      obtain ⟨rules, -, hrules⟩ := hget file text name hmem haction
      exact ⟨rules, Registry.get_eq_ok_iff.1 hrules⟩
  · exact (NameMap.names_sorted _).imp byteBefore_iff.2
  · intro order horder
    rw [Registry.foldlM_insert, afterInserts_documents_eq hn (readable_perm horder),
      afterInserts_documents_eq hn (.refl _)]
    rintro ⟨name, document⟩ hcall
    obtain ⟨file, text, hmem, haction, hread⟩ := (mem_documents_actionsIn_iff horder).1 hcall
    obtain ⟨rules, document', hread', hof⟩ := h file text name hmem haction
    obtain rfl := Option.some.inj (hread.symm.trans hread')
    exact ⟨rules, hof⟩

theorem firstRefused_of_load {directory : String} {e : GatewayError}
    (h : load directory (readable files) = .error e) :
    ∃ file text name, FirstRefused directory files e file text name := by
  obtain ⟨before, ⟨file, name, content⟩, after, hfiles, hstop, hbefore⟩ := insertFiles_stops h
  have hmem : ∀ f ∈ before ++ (file, name, content) :: after,
      ∃ text, f.2.2 = .ok text ∧ (f.1, text) ∈ files ∧ IsActionFile f.1 f.2.1 := fun f hf =>
    (mem_actionFiles_readable_iff hn).1 (hfiles ▸ hf)
  obtain ⟨text, rfl, htext, haction⟩ := hmem _ (List.mem_append_right _ List.mem_cons_self)
  refine ⟨file, text, name, htext, haction, refuses_of_fileRules hstop, ?_⟩
  intro file' text' name' htext' haction' hbad
  have hf' := (mem_actionFiles_readable_iff hn (f := (file', name', .ok text'))).2
    ⟨text', rfl, htext', haction'⟩
  rw [hfiles] at hf'
  rcases List.mem_append.1 hf' with hf' | hf'
  · obtain ⟨rules, hrules⟩ := hbefore _ hf'
    exact absurd ⟨rules, fileRules_eq_ok_iff.1 hrules⟩ hbad
  rcases List.mem_cons.1 hf' with heq | hf'
  · cases heq
    exact .inl rfl
  · have hsorted := (actionFiles (readable files)).sorted
    rw [hfiles] at hsorted
    have hlater := (List.pairwise_cons.1 (List.pairwise_append.1 hsorted).2.1).1 _ hf'
    exact .inr (byteBefore_iff.2 hlater)

end ReadableFiles

/-- A directory is loaded as a whole or not at all, whatever the order in which its files are
listed: the registry has the actions that the files are named for, and otherwise the error tells
which file, the first in the order of bytes, holds no rules. Over insertions of any kind, an action
has the rules of the last one under its name that was not refused. -/
theorem load_all_or_nothing (directory : String) {files : List (String × String)}
    (hn : (files.map Prod.fst).Nodup) :
    ((∃ r, load directory (readable files) = .ok r) ↔ AllHoldRules files) ∧
    (∀ r, load directory (readable files) = .ok r → Loaded files r) ∧
    (∀ e, load directory (readable files) = .error e →
      ∃ file text name, FirstRefused directory files e file text name) ∧
    (∀ order : List (String × String), order.Perm files →
      load directory (readable order) = load directory (readable files)) ∧
    ∀ calls : List (String × Tree),
      (∀ name document e,
        (Registry.empty.afterInserts calls).insert name document = .error e ↔
          ActionRules.ofTree name document = .error e) ∧
      (∀ name document e,
        (Registry.empty.afterInserts calls).insert name document = .error e →
          Registry.empty.afterInserts (calls ++ [(name, document)]) =
            Registry.empty.afterInserts calls) ∧
      (∀ name rules, (Registry.empty.afterInserts calls).get name = .ok rules ↔
        Registry.LastInserted calls name rules) ∧
      ∀ name, (Registry.empty.afterInserts calls).get name = .error (.actionNotFound name) ↔
        Registry.NeverInserted calls name := by
  have hall : ∀ r, load directory (readable files) = .ok r → AllHoldRules files := fun r h =>
    (allHoldRules_iff hn directory).2 (rules_of_insertFiles h)
  refine ⟨⟨fun ⟨r, h⟩ => hall r h, fun h => ⟨_, load_of_allHoldRules hn directory h⟩⟩, ?_,
    fun e => firstRefused_of_load hn, ?_, fun calls =>
      ⟨fun _ _ _ => Registry.insert_eq_error_iff, ?_, fun _ _ => Registry.lastInserted_iff.symm,
        fun _ => Registry.neverInserted_iff.symm⟩⟩
  · intro r h
    have hr := load_of_allHoldRules hn directory (hall r h)
    rw [h] at hr
    rw [Except.ok.inj hr]
    exact loaded_of_allHoldRules hn (hall r h)
  · intro order horder
    rw [load, load, actionFiles_eq_of_perm (readable_nodup hn) (readable_perm horder)]
  · intro name document e h
    rw [Registry.afterInserts_append]
    exact Registry.afterInsert_of_error h

theorem load_all_or_nothing_pair :
    ∃ r, r.names = ["a", "a-b"] ∧
      Loaded [("a-b.json", "\x7b\"request\":\x7b\"url\":\"http://x\"\x7d\x7d"),
        ("gateway.json", "[]"),
        ("a.json", "\x7b\"request\":\x7b\"url\":\"http://y\"\x7d\x7d")] r := by
  have hdistinct : ([("a-b.json", "\x7b\"request\":\x7b\"url\":\"http://x\"\x7d\x7d"),
      ("gateway.json", "[]"),
      ("a.json", "\x7b\"request\":\x7b\"url\":\"http://y\"\x7d\x7d")].map Prod.fst).Nodup := by
    decide
  have hnames : (load "rules" (readable [("a-b.json",
      "\x7b\"request\":\x7b\"url\":\"http://x\"\x7d\x7d"), ("gateway.json", "[]"),
      ("a.json", "\x7b\"request\":\x7b\"url\":\"http://y\"\x7d\x7d")])).toOption.map
        Registry.names = some ["a", "a-b"] := by decide +kernel
  obtain ⟨r, hr, hnames⟩ := Option.map_eq_some_iff.1 hnames
  exact ⟨r, hnames, (load_all_or_nothing "rules" hdistinct).2.1 r (Except.eq_ok_of_toOption hr)⟩

end Directory

end ActionBridge
