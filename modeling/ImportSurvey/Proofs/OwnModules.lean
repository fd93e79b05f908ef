import ImportSurvey.Proofs.Filters
import ImportSurvey.Proofs.ModuleIds
import ImportSurvey.Proofs.SourceFiles

/-
  Whether every file has a module of its own.

  The files of a survey are put under their ids before the graph is built, and a later file takes the place of an
  earlier one of the same id.  So each file has its own module, with its own dependencies, iff no two ids are the
  same (`Survey.OwnModules`).

  The crux is to tell when two files have one id.  A file that was discovered stands below the base directory, and
  what its path has there is cut off at names, so before backslashes are replaced the id tells the file
  (`ModuleSpace.inside_nameText`).  Replacing is done character by character, and the part of the path that is cut
  off is the same for all files.  Hence two files have one id iff their paths are the same up to slashes and
  backslashes (`Survey.moduleId_eq_iff`): a file with a backslash in its name and one in a directory.

  Where this does not happen, all files that could be read are there under their ids (`mem_gathered_of_apart`), and
  the modules that are followed are theirs.
-/
namespace ImportSurvey

theorem slashed_append (a b : String) : slashed (a ++ b) = slashed a ++ slashed b := by
  rw [slashed, String.toList_append, List.map_append, String.ofList_append]
  rfl

/-! ## Ids of entries -/

namespace Disk

/-- What stands before the rest of a name in the path of an entry below the directory. -/
def front (base : Name) : String := if base = [] then "/" else "/" ++ "/".intercalate base ++ "/"

theorem text_nameText_append (base : Name) {rest : Name} (hrest : rest ≠ []) :
    (nameText (base ++ rest)).text = front base ++ "/".intercalate rest := by
  rw [nameText, front]
  split
  · rename_i hbase
    rw [hbase, List.nil_append]
  · rename_i hbase
    rw [String.intercalate_append_of_ne_nil hbase hrest, String.append_assoc, String.append_assoc, String.append_assoc]

variable {name : Name}

theorem nameText_eq_ofComponents (name : Name) : nameText name = Path.ofComponents (.root :: name.map .name) := by
  rw [nameText, Path.ofComponents, Path.map_text_name]

theorem Tellable.components_nameText (h : Tellable name) :
    (nameText name).components = .root :: name.map .name := by
  rw [nameText_eq_ofComponents]
  exact Path.Folded.components_ofComponents (.inr ⟨_, rfl, h.ordinary⟩)

/-- The path of an entry is simplified. -/
theorem Tellable.normalize_nameText (h : Tellable name) : (nameText name).normalize = nameText name := by
  rw [Path.normalize, h.components_nameText, List.foldl_cons]
  show Path.ofComponents ((name.map .name).foldl Path.fold [.root]) = _
  rw [Path.foldl_names, nameText_eq_ofComponents]
  rfl

end Disk

namespace ModuleSpace

open Disk

/-- **What an entry has below a directory are the names behind that of the directory.** -/
theorem inside_nameText {base rest : Name} (h : Tellable (base ++ rest)) :
    (ofDir (nameText base)).inside (nameText (base ++ rest)) = ⟨"/".intercalate rest⟩ := by
  have hbase : Tellable base := fun s hs => h s (List.mem_append_left rest hs)
  have hrest : Tellable rest := fun s hs => h s (List.mem_append_right base hs)
  have hcomponents : (nameText (base ++ rest)).components = (nameText base).components ++ rest.map .name := by
    rw [h.components_nameText, hbase.components_nameText, List.map_append]
    rfl
  have hbelow : (nameText (base ++ rest)).below? (nameText base) = some (Path.ofComponents (rest.map .name)) := by
    have hstarts : (nameText (base ++ rest)).startsWith (nameText base) = true := by
      rw [Path.startsWith, hcomponents]
      exact List.isPrefixOf_iff_prefix.mpr (List.prefix_append _ _)
    rw [Path.below?, hstarts, if_pos rfl, hcomponents, List.drop_left]
  rw [inside, ofDir, h.normalize_nameText, hbase.normalize_nameText, hbelow, Option.getD_some, Path.ofComponents,
    Path.map_text_name]
  intro rest' hroot
  have hin : Path.Component.root ∈ rest.map Path.Component.name := hroot ▸ List.mem_cons_self
  exact (hrest.ordinary _ hin).ne_root rfl

end ModuleSpace

namespace Survey

variable {d : Disk} {s : Settings} {p : Plan}

/-! ## Ids of files -/

theorem base_of_plan (h : plan d s = .ok p) : p.base = Disk.nameText p.baseName := by
  obtain ⟨⟨name, listable⟩, -, h⟩ := exists_of_bind_eq_ok h
  obtain ⟨globs, -, h⟩ := exists_of_bind_eq_ok h
  obtain ⟨skip, -, h⟩ := exists_of_bind_eq_ok h
  obtain ⟨only, -, h⟩ := exists_of_bind_eq_ok h
  obtain rfl := Except.ok.inj h
  rfl

/-- A file that is taken stands on the disk below the base directory. -/
theorem exists_name_of_taken (hd : d.Rooted) (hp : plan d s = .ok p) {f : Path} (hf : f ∈ takenFiles d s p) :
    ∃ rest, rest ≠ [] ∧ f = Disk.nameText (p.baseName ++ rest) ∧ Disk.Tellable (p.baseName ++ rest) := by
  have hfinds := finds_searchDir hd.toTree p.globs (longestName d + 1) s.maxDepth ⟨p.baseName, []⟩ p.listable
    (isDirName_baseName hp)
  obtain ⟨name, content, mode, ⟨rest, rfl⟩, hpath, hentry⟩ := hfinds.files f (List.mem_of_mem_filter hf)
  refine ⟨rest, ?_, hpath, hd.tellable hentry⟩
  -- the base directory is no file
  rintro rfl
  obtain ⟨_, _, hdir⟩ := (Disk.isDirName_iff d p.baseName).mp (isDirName_baseName hp)
  rw [List.append_nil, hdir] at hentry
  cases hentry

/-- **Two files have one id iff their paths are the same up to slashes and backslashes.** -/
theorem moduleId_eq_iff (hd : d.Rooted) (hp : plan d s = .ok p) {f f' : Path} (hf : f ∈ takenFiles d s p)
    (hf' : f' ∈ takenFiles d s p) :
    p.space.moduleId f = p.space.moduleId f' ↔ slashed f.text = slashed f'.text := by
  have hid : ∀ g ∈ takenFiles d s p,
      slashed g.text = slashed (Disk.front p.baseName) ++ p.space.moduleId g := by
    intro g hg
    obtain ⟨rest, hrest, rfl, htellable⟩ := exists_name_of_taken hd hp hg
    rw [ModuleSpace.moduleId_eq, Plan.space, base_of_plan hp, ModuleSpace.inside_nameText htellable,
      ← slashed_append, Disk.text_nameText_append _ hrest]
  rw [hid f hf, hid f' hf', String.append_right_inj]

/-! ## Files under their ids -/

/-- The files of a survey that could be read. -/
def readFiles (d : Disk) (s : Settings) (p : Plan) : List Path :=
  (takenFiles d s p).filter fun f => (readFile d (request s) f).references.isSome

theorem mem_readFiles_iff {f : Path} :
    f ∈ readFiles d s p ↔ f ∈ takenFiles d s p ∧ ∃ text, d.readText f = .ok text := by
  rw [readFiles, List.mem_filter, Option.isSome_iff_exists, references_readFile_isSome]

/-- **Where files that could be read have ids that differ, each is there under its id**, by induction on the files. -/
theorem mem_gathered_of_apart (space : ModuleSpace) {outcomes : List (Path × FileOutcome)}
    (hapart : outcomes.Pairwise fun o o' => o.2.references.isSome = true → o'.2.references.isSome = true →
      space.moduleId o.1 ≠ space.moduleId o'.1)
    {o : Path × FileOutcome} (ho : o ∈ outcomes) {refs : List Reference} (hrefs : o.2.references = some refs) :
    (space.moduleId o.1, refs) ∈ gathered space outcomes := by
  induction outcomes using List.reverseRecOn with
  | nil => cases ho
  | append_singleton outcomes last ih =>
    obtain ⟨hbefore, -, hlast⟩ := List.pairwise_append.mp hapart
    rw [gathered, List.foldl_append, List.foldl_cons, List.foldl_nil, fileOutcome]
    rcases List.mem_append.mp ho with ho | ho
    · have hmem := ih hbefore ho
      split
      · rename_i refs' hrefs'
        refine (mem_fileUnder_iff (ascending_gathered space outcomes) _).mpr (.inr ⟨hmem, ?_⟩)
        exact hlast o ho last (List.mem_singleton_self last) (by rw [hrefs]; rfl) (by rw [hrefs']; rfl)
      · exact hmem
    · obtain rfl := List.mem_singleton.mp ho
      rw [hrefs]
      exact (mem_fileUnder_iff (ascending_gathered space outcomes) _).mpr (.inl rfl)

/-- Each file that could be read has a module of its own. -/
structure OwnModules (d : Disk) (s : Settings) (p : Plan) (modules : List Module) : Prop where
  apart : ∀ f ∈ readFiles d s p, ∀ f' ∈ readFiles d s p, p.space.moduleId f = p.space.moduleId f' → f = f'
  count : (modules.filter (·.followed)).length = (readFiles d s p).length
  /-- the dependencies of the file, but for what analysis and validation write -/
  own : ∀ f ∈ readFiles d s p, ∀ refs, (readFile d (request s) f).references = some refs →
    ∃ m ∈ modules, m.id = p.space.moduleId f ∧ m.followed = true ∧ List.Forall₂ Dependency.SameButFindings
      (edgesOf (p.space.resolver d) p.includeOnly (p.space.moduleId f) refs) m.dependencies

/-- Two files that could be read have the same path up to slashes and backslashes. -/
def SlashClash (d : Disk) (s : Settings) (p : Plan) : Prop :=
  ∃ f ∈ readFiles d s p, ∃ f' ∈ readFiles d s p, f ≠ f' ∧ slashed f.text = slashed f'.text

section

variable (hd : d.Rooted) (hp : plan d s = .ok p) (hclash : ¬ SlashClash d s p)
include hd hp hclash

theorem apart_of_no_clash : ∀ f ∈ readFiles d s p, ∀ f' ∈ readFiles d s p,
    p.space.moduleId f = p.space.moduleId f' → f = f' := by
  intro f hf f' hf' hid
  by_contra hne
  have hsame := (moduleId_eq_iff hd hp (List.mem_of_mem_filter hf) (List.mem_of_mem_filter hf')).mp hid
  exact hclash ⟨f, hf, f', hf', hne, hsame⟩

/-- The files that the graph is built from are those that could be read. -/
theorem mem_filesOf_of_read {f : Path} (hf : f ∈ readFiles d s p) {refs : List Reference}
    (hrefs : (readFile d (request s) f).references = some refs) :
    (p.space.moduleId f, refs) ∈ filesOf d s p := by
  have htaken := List.mem_of_mem_filter hf
  have hnodup : (takenFiles d s p).Nodup := (nodup_searchDir hd.toTree _ _ _ _ _).filter _
  have hapart := apart_of_no_clash hd hp hclash
  refine mem_gathered_of_apart p.space ?_ (List.mem_map_of_mem (f := fun f => (f, readFile d (request s) f)) htaken) hrefs
  refine List.pairwise_map.mpr (hnodup.imp_of_mem fun {g g'} hg hg' hne hread hread' hid => hne ?_)
  exact hapart g (List.mem_filter.mpr ⟨hg, hread⟩) g' (List.mem_filter.mpr ⟨hg', hread'⟩) hid

/-- Each module that is followed is that of one file, and each file has one. -/
theorem perm_followed {rules : RuleSet} {modules : List Module}
    (hmodules : modules = (((built d s p).analyze rules).validate rules s.validate).modules) :
    ((modules.filter (·.followed)).map (·.id)).Perm ((readFiles d s p).map p.space.moduleId) := by
  have hsame : List.Forall₂ Module.SameButFindings (built d s p).modules modules := by
    rw [hmodules]
    exact Graph.sameButFindings_analyze_validate _ rules s.validate
  have hids : (built d s p).modules.map (·.id) = modules.map (·.id) := by
    rw [← List.forall₂_eq_eq_eq, List.forall₂_map_left_iff, List.forall₂_map_right_iff]
    exact hsame.imp fun _ _ h => h.id_eq.symm
  have hnodup : (modules.map (·.id)).Nodup := by
    rw [← hids]
    exact (Graph.building_addAll (p.space.resolver d) p.includeOnly (filesOf d s p)).indexed.sortById.nodup
  have hfollowed : ((modules.filter (·.followed)).map (·.id)).Nodup := hnodup.sublist (List.filter_sublist.map _)
  have hread : ((readFiles d s p).map p.space.moduleId).Nodup := by
    have hfiles : (readFiles d s p).Nodup := ((nodup_searchDir hd.toTree _ _ _ _ _).filter _).filter _
    exact hfiles.map_on fun f hf f' hf' => apart_of_no_clash hd hp hclash f hf f' hf'
  refine (List.perm_ext_iff_of_nodup hfollowed hread).mpr fun id => ?_
  have hmodule : id ∈ (modules.filter (·.followed)).map (·.id) ↔ ∃ m ∈ modules, m.id = id ∧ m.followed = true := by
    simp only [List.mem_map, List.mem_filter, and_assoc]
    exact exists_congr fun m => and_congr_right fun _ => and_comm
  have hfile : id ∈ (readFiles d s p).map p.space.moduleId ↔
      ∃ f ∈ takenFiles d s p, p.space.moduleId f = id ∧ ∃ text, d.readText f = .ok text := by
    simp only [List.mem_map, mem_readFiles_iff, and_assoc]
    exact exists_congr fun f => and_congr_right fun _ => and_comm
  rw [hmodule, hfile, hmodules, followed_analyze_validate_iff, built, Graph.followed_build_iff, mem_ids_filesOf_iff]

/-- The module of a file has the dependencies of the file. -/
theorem exists_module_of_read {rules : RuleSet} {modules : List Module}
    (hmodules : modules = (((built d s p).analyze rules).validate rules s.validate).modules) {f : Path}
    (hf : f ∈ readFiles d s p) {refs : List Reference} (hrefs : (readFile d (request s) f).references = some refs) :
    ∃ m ∈ modules, m.id = p.space.moduleId f ∧ m.followed = true ∧ List.Forall₂ Dependency.SameButFindings
      (edgesOf (p.space.resolver d) p.includeOnly (p.space.moduleId f) refs) m.dependencies := by
  have hfile := mem_filesOf_of_read hd hp hclash hf hrefs
  have hbuilding := Graph.building_addAll (p.space.resolver d) p.includeOnly (filesOf d s p)
  obtain ⟨n, hn, hnid, hdeps⟩ :=
    Graph.exists_module_of_file (p.space.resolver d) p.includeOnly (filesOf_spec d s p).1 hfile
  have hfollowed : n.followed = true := by
    refine (hbuilding.followed n ((Graph.mem_sortById _ n).mp hn)).mpr ?_
    rw [hnid]
    exact List.mem_map_of_mem hfile
  obtain ⟨m, hm, hsame⟩ := exists_of_mem_left (Graph.sameButFindings_analyze_validate _ rules s.validate) hn
  refine ⟨m, by rw [hmodules]; exact hm, hsame.id_eq.trans hnid, hsame.followed_eq.trans hfollowed, ?_⟩
  rw [← hdeps]
  exact hsame.dependencies

end

/-- **Each file has a module of its own iff no two paths are the same up to slashes and backslashes.** -/
theorem ownModules_iff (hd : d.Rooted) {rules : RuleSet} {time : Timestamp} {outcome : Outcome}
    (h : run d s rules time = .ok outcome) :
    ∃ p, plan d s = .ok p ∧ (OwnModules d s p outcome.result.modules ↔ ¬ SlashClash d s p) := by
  obtain ⟨p, hp, hmodules⟩ := modules_of_run h
  refine ⟨p, hp, fun hown => ?_, fun hclash => ?_⟩
  · rintro ⟨f, hf, f', hf', hne, hsame⟩
    have hid := (moduleId_eq_iff hd hp (List.mem_of_mem_filter hf) (List.mem_of_mem_filter hf')).mpr hsame
    exact hne (hown.apart f hf f' hf' hid)
  · have hcount := (perm_followed hd hp hclash hmodules).length_eq
    rw [List.length_map, List.length_map] at hcount
    exact {
      apart := apart_of_no_clash hd hp hclash
      count := hcount
      own := fun f hf refs hrefs => exists_module_of_read hd hp hclash hmodules hf hrefs }

/-- Two files with paths that no slash makes the same. -/
theorem ownModules_of_shared_name : sharedName.Rooted ∧ ∃ outcome, run sharedName ofRoot {} default = .ok outcome ∧
    OwnModules sharedName ofRoot planOfRoot outcome.result.modules := by
  have hrooted : sharedName.Rooted := by
    refine { named := ?_, unique := ?_, proper := ?_, inside := ?_ }
    all_goals decide
  obtain ⟨outcome, hrun⟩ := run_of_plan (plan_ofRoot sharedName) {} default
  obtain ⟨p, hp, hown⟩ := ownModules_iff hrooted hrun
  obtain rfl := Except.ok.inj ((plan_ofRoot sharedName).symm.trans hp)
  refine ⟨hrooted, outcome, hrun, hown.mpr ?_⟩
  rintro ⟨f, hf, f', hf', hne, hsame⟩
  have hfiles : ∀ g ∈ readFiles sharedName ofRoot planOfRoot, g ∈ [(⟨"/a.js"⟩ : Path), ⟨"/fs/x.js"⟩] := by
    intro g hg
    have htaken : g ∈ (discover sharedName [] none [] true).files :=
      List.mem_of_mem_filter (List.mem_of_mem_filter hg)
    rw [discover_sharedName] at htaken
    exact htaken
  have hapart : ∀ g ∈ [(⟨"/a.js"⟩ : Path), ⟨"/fs/x.js"⟩], ∀ g' ∈ [(⟨"/a.js"⟩ : Path), ⟨"/fs/x.js"⟩],
      slashed g.text = slashed g'.text → g = g' := by decide
  exact hne (hapart f (hfiles f hf) f' (hfiles f' hf') hsame)

/-! ### A backslash in a name -/

/-- A file in a directory, and a file with a backslash in its name. -/
def backslash : Disk where
  entries := [(["a"], .dir 0o755 true), (["a", "b.js"], .file (.text "require('fs')")),
    (["a\\b.js"], .file (.text ""))]
  workingDir := []

theorem children_backslash :
    backslash.children [] = [("a", .dir 0o755 true), ("a\\b.js", .file (.text ""))] ∧
      backslash.children ["a"] = [("b.js", .file (.text "require('fs')"))] :=
  ⟨List.mergeSort_of_pairwise (by decide), List.mergeSort_singleton _⟩

theorem discover_backslash : (discover backslash [] none [] true).files = [⟨"/a/b.js"⟩, ⟨"/a\\b.js"⟩] := by
  obtain ⟨hroot, hinside⟩ := children_backslash
  have hbelow : searchDir backslash [] none ((⟨[], []⟩ : Place).enter "a") true 2 =
      { files := [⟨"/a/b.js"⟩] } := by
    have hname : ((⟨[], []⟩ : Place).enter "a").name = ["a"] := rfl
    rw [searchDir_whole _ (by decide), hname, hinside, List.foldl_cons, List.foldl_nil]
    exact if_pos (by decide)
  have hdepth : longestName backslash + 1 = 3 := by decide
  rw [discover, hdepth, searchDir_whole _ (by decide), hroot]
  simp only [List.foldl_cons, List.foldl_nil, hbelow]
  rw [if_pos (by decide)]
  rfl

theorem readText_backslash : backslash.readText ⟨"/a/b.js"⟩ = .ok "require('fs')" ∧
    backslash.readText ⟨"/a\\b.js"⟩ = .ok "" := by
  have hproper : Disk.Proper "a" ∧ Disk.Proper "b.js" ∧ Disk.Proper "a\\b.js" := by decide
  constructor
  · have hfind : backslash.find ⟨"/a/b.js"⟩ true = .ok (["a", "b.js"], .file (.text "require('fs')")) := by
      refine Disk.find_of_walk ⟨by decide, by decide, by decide⟩ rfl (show _ = ["", "a", "b.js"] by decide) ?_
      refine .stay rfl (.inl rfl) (.enter rfl hproper.1 rfl (fun _ h => by cases h) ?_)
      exact .enter rfl hproper.2.1 rfl (fun _ h => by cases h) (.stop rfl)
    rw [Disk.readText, hfind]
  · have hfind : backslash.find ⟨"/a\\b.js"⟩ true = .ok (["a\\b.js"], .file (.text "")) := by
      refine Disk.find_of_walk ⟨by decide, by decide, by decide⟩ rfl (show _ = ["", "a\\b.js"] by decide) ?_
      exact .stay rfl (.inl rfl) (.enter rfl hproper.2.2 rfl (fun _ h => by cases h) (.stop rfl))
    rw [Disk.readText, hfind]

/-- **A file loses its module** to one with a backslash in its name: both have the id `a/b.js`. -/
theorem not_ownModules_of_backslash : ∃ outcome, run backslash ofRoot {} default = .ok outcome ∧
    ¬ OwnModules backslash ofRoot planOfRoot outcome.result.modules := by
  obtain ⟨outcome, hrun⟩ := run_of_plan (plan_ofRoot backslash) {} default
  refine ⟨outcome, hrun, fun hown => ?_⟩
  have htaken : takenFiles backslash ofRoot planOfRoot = [⟨"/a/b.js"⟩, ⟨"/a\\b.js"⟩] := by
    show List.filter _ (discover backslash [] none [] true).files = _
    rw [discover_backslash]
    rfl
  have hslash : ⟨"/a/b.js"⟩ ∈ readFiles backslash ofRoot planOfRoot :=
    mem_readFiles_iff.mpr ⟨by rw [htaken]; exact List.mem_cons_self, _, readText_backslash.1⟩
  have hback : ⟨"/a\\b.js"⟩ ∈ readFiles backslash ofRoot planOfRoot :=
    mem_readFiles_iff.mpr ⟨by rw [htaken]; exact List.mem_cons_of_mem _ List.mem_cons_self, _, readText_backslash.2⟩
  have hid : planOfRoot.space.moduleId ⟨"/a/b.js"⟩ = planOfRoot.space.moduleId ⟨"/a\\b.js"⟩ := by decide
  exact absurd (hown.apart _ hslash _ hback hid) (by decide)

end Survey

end ImportSurvey
