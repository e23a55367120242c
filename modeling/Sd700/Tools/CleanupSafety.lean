import Sd700.Tools.Cleanup

/-! What `apply_plan` removes: whatever the checkout and the plan, files the other checks let go; the literal paths
of the sources are the one check that can miss. -/

namespace Sd700.Tools.CleanupSafety
open Logic.Checks Cleanup

variable {env : Env} {t s : Tree} {plan : Plan} {q p d : Path} {node : Node}

/-! ### Trees -/

theorem Tree.ext_nodes (same : s.nodes = t.nodes) : s = t := by
  cases s
  cases t
  cases same
  rfl

theorem find_of_mem {nodes : List (Path × Node)} (distinct : (nodes.map Prod.fst).Nodup) (listed : (q, node) ∈ nodes) :
    (nodes.find? fun entry => entry.1 = q) = some (q, node) := by
  induction nodes with
  | nil => contradiction
  | cons first later ih =>
    rw [List.map_cons, List.nodup_cons] at distinct
    rw [List.find?_cons]
    rcases List.mem_cons.mp listed with here | there
    · rw [← here]
      simp
    · have other : first.1 ≠ q := by
        intro same
        exact distinct.1 (List.mem_map.mpr ⟨(q, node), there, same.symm⟩)
      rw [decide_eq_false other]
      exact ih distinct.2 there

theorem at_eq_some : t.at q = some node ↔ (q, node) ∈ t.nodes := by
  unfold Tree.at
  constructor
  · intro found
    obtain ⟨entry, hit, same⟩ := Option.map_eq_some_iff.mp found
    have listed := List.mem_of_find?_eq_some hit
    have here := List.find?_some hit
    rw [decide_eq_true_iff] at here
    rw [← here, ← same]
    exact listed
  · intro listed
    rw [find_of_mem t.distinct listed]
    rfl

theorem option_ext {a b : Option Node} (same : ∀ node, a = some node ↔ b = some node) : a = b := by
  cases a with
  | none =>
    cases b with
    | none => rfl
    | some node => exact (same node).mpr rfl
  | some node => exact ((same node).mp rfl).symm

theorem at_remove : (t.remove p).at q = if q = p then none else t.at q := by
  apply option_ext
  intro node
  rw [at_eq_some, Tree.remove, List.mem_filter]
  by_cases here : q = p
  · rw [if_pos here]
    simp [here]
  · rw [if_neg here, at_eq_some]
    simp [here]

theorem at_put (there : t.at p ≠ none) : (t.put p node).at q = if q = p then some node else t.at q := by
  obtain ⟨old, held⟩ := Option.ne_none_iff_exists'.mp there
  have listed := at_eq_some.mp held
  apply option_ext
  intro other
  rw [at_eq_some, Tree.put, List.mem_map]
  by_cases here : q = p
  · subst here
    rw [if_pos rfl]
    constructor
    · rintro ⟨entry, _, same⟩
      by_cases hit : entry.1 = q
      · rw [if_pos hit] at same
        rw [(Prod.mk.inj same).2]
      · rw [if_neg hit] at same
        exact absurd (congrArg Prod.fst same) hit
    · intro same
      refine ⟨(q, old), listed, ?_⟩
      rw [if_pos rfl, Option.some.inj same]
  · rw [if_neg here, at_eq_some]
    constructor
    · rintro ⟨entry, member, same⟩
      by_cases hit : entry.1 = p
      · rw [if_pos hit] at same
        exact absurd ((congrArg Prod.fst same).symm.trans hit) here
      · rw [if_neg hit] at same
        rw [← same]
        exact member
    · intro member
      refine ⟨(q, other), member, ?_⟩
      rw [if_neg here]

def without (t : Tree) (paths : List Path) : Tree where
  nodes := t.nodes.filter fun entry => entry.1 ∉ paths
  distinct := t.distinct.sublist (List.filter_sublist.map _)
  named := fun p listed => t.named p (List.Sublist.mem listed (List.filter_sublist.map _))

theorem at_without {paths : List Path} : (without t paths).at q = if q ∈ paths then none else t.at q := by
  apply option_ext
  intro node
  rw [at_eq_some, without, List.mem_filter]
  by_cases here : q ∈ paths
  · rw [if_pos here]
    simp [here]
  · rw [if_neg here, at_eq_some]
    simp [here]

theorem without_nil : without t [] = t := by
  apply Tree.ext_nodes
  simp [without]

theorem without_remove {paths : List Path} : (without t paths).remove p = without t (paths ++ [p]) := by
  apply Tree.ext_nodes
  simp only [without, Tree.remove, List.filter_filter]
  apply List.filter_congr
  intro entry _
  simp [and_comm]

theorem good_of_at (there : t.at q = some node) : ∀ name ∈ q, GoodName name :=
  t.named q (List.mem_map_of_mem (f := Prod.fst) (at_eq_some.mp there))

/-! ### Path texts -/

theorem partsOf_joined (good : ∀ name ∈ q, GoodName name) : partsOf (joined q) = q := by
  unfold partsOf joined
  by_cases empty : q = []
  · subst empty
    rfl
  · rw [List.splitOn_intercalate '/' (fun name listed => (good name listed).2.1) empty, List.filter_eq_self]
    intro name listed
    exact decide_eq_true ⟨(good name listed).1, (good name listed).2.2⟩

theorem joined_inj (good : ∀ name ∈ q, GoodName name) (fine : ∀ name ∈ p, GoodName name) (same : joined q = joined p) :
    q = p := by
  rw [← partsOf_joined good, same, partsOf_joined fine]

theorem joined_single {name : Text} : joined [name] = name := by simp [joined]

theorem joined_append (some_ : d ≠ []) (rest : p ≠ []) : joined (d ++ p) = joined d ++ '/' :: joined p := by
  unfold joined
  induction d with
  | nil => contradiction
  | cons name later ih =>
    cases later with
    | nil =>
      cases p with
      | nil => contradiction
      | cons _ _ => simp [List.intercalate_cons_cons]
    | cons next more =>
      rw [List.cons_append, List.cons_append, List.intercalate_cons_cons, List.intercalate_cons_cons,
        ← List.cons_append, ih (by simp)]
      simp

/-! ### Literals -/

/-- What may stand between two names of a literal path: a slash, a backslash, or an escaped backslash. -/
def separators : List Text := [['/'], ['\\'], ['\\', '\\']]

inductive Spelled : Text → Text → Prop
  | nil : Spelled [] []
  | char {c : Char} {path literal : Text} (plain : c ≠ '/') (later : Spelled path literal) :
      Spelled (c :: path) (c :: literal)
  | slash {separator path literal : Text} (allowed : separator ∈ separators) (later : Spelled path literal) :
      Spelled ('/' :: path) (separator ++ literal)

theorem spelled_plain (name : Text) (plain : '/' ∉ name) {path literal : Text} (later : Spelled path literal) :
    Spelled (name ++ path) (name ++ literal) := by
  induction name with
  | nil => exact later
  | cons c name ih =>
    rw [List.mem_cons, not_or] at plain
    exact Spelled.char (fun same => plain.1 same.symm) (ih plain.2)

def Begins (before : Text) : Prop := ∀ c, before.getLast? = some c → isPathChar c = false

def Ends (after : Text) : Prop :=
  ∃ run rest, after = run ++ rest ∧ (∀ c ∈ run, c ∈ ['.', '/', '\\', '-']) ∧ ∀ c, rest.head? = some c → isPathChar c = false

def Named (source path : Text) : Prop :=
  ∃ before literal after, source = before ++ literal ++ after ∧ Begins before ∧ Spelled path literal ∧ Ends after

/-- What makes the scan read a literal as another path: a backslash that is escaped, a character outside its class, or
one of its class right behind. -/
def Misread (literal after : Text) : Prop :=
  ['\\', '\\'] <:+: literal ∨ (∃ c ∈ literal, isPathChar c = false) ∨ ∃ c, after.head? = some c ∧ isPathChar c = true

def Misspelled (source path : Text) : Prop :=
  ∃ before literal after, source = before ++ literal ++ after ∧ Begins before ∧ Spelled path literal ∧ Ends after ∧
    Misread literal after

def Scanned (source path : Text) : Prop := path ∈ (findall 0 source).map slashed

/-- The text of a tracked source below `tools/` or `Tests/`. -/
def SourceOf (env : Env) (t : Tree) (source : Text) : Prop :=
  ∃ listed, env.lsFiles t = .ok listed ∧ ∃ relative ∈ listed, isSource relative = true ∧
    sourceText env t relative = .ok source

/-! ### Evidence -/

def IsFile (t : Tree) (q : Path) : Prop := ∃ bytes readOnly, t.at q = some (.file bytes readOnly)

def Below (q : Path) : Prop := q.head? = some "output".toList ∧ 2 ≤ q.length

def Uncertain (env : Env) (t : Tree) (g : Path) : Prop :=
  IsFile t g ∧ Below g ∧ env.lower (g.getLastD []) ≠ ".git".toList ∧
    ((∃ stem, stemOf env (joined g) = some stem ∧ provenSynthetic env t stem = false) ∨
      env.lower (g.getLastD []) ∈ ["metadata.json".toList, "report.txt".toList])

structure Expendable (env : Env) (t : Tree) (plan : Plan) (q : Path) : Prop where
  below : Below q
  untracked : ∃ listed, env.lsFiles t = .ok listed ∧ env.lower (joined q) ∉ listed.map env.lower
  ignored : ∃ verdict, env.checkIgnore t = .ok verdict ∧ verdict (joined q) = true
  field : ∀ part ∈ q.tail.dropLast, env.lower part ∉ fieldNames
  kept : ∀ k ∈ plan.keep, joined q ≠ k ∧ ¬(k ++ ['/']) <+: joined q
  certain : ∀ g, Uncertain env t g → ¬g.dropLast <+: q.dropLast
  unnamed : ∀ source, SourceOf env t source → ¬Named source (joined q)

def finalTree : Removal Receipt → Tree
  | .ok receipt => receipt.tree
  | .error e => e.1

/-- A run takes nothing but expendable files and empty directories, and changes no byte of the others. -/
structure SafeRun (env : Env) (t : Tree) (plan : Plan) (active : Except String (List Text)) : Prop where
  files : ∀ q bytes readOnly, t.at q = some (.file bytes readOnly) →
    (∃ mode, (finalTree (applyPlan env t plan active)).at q = some (.file bytes mode)) ∨
      (finalTree (applyPlan env t plan active)).at q = none ∧ Expendable env t plan q
  directories : ∀ q, t.at q = some .dir → (finalTree (applyPlan env t plan active)).at q = some .dir ∨
    (finalTree (applyPlan env t plan active)).at q = none ∧ (finalTree (applyPlan env t plan active)).children q = []
  links : ∀ q bytes, t.at q = some (.link bytes) →
    (finalTree (applyPlan env t plan active)).at q = some (.link bytes)
  fresh : ∀ q, t.at q = none → (finalTree (applyPlan env t plan active)).at q = none

/-- A run that raises before it removes anything. -/
def Refused (env : Env) (t : Tree) (plan : Plan) (active : Except String (List Text)) : Prop :=
  plan.version ≠ 1 ∨ snapshot env t plan.keep ≠ .ok plan ∨ active ≠ .ok []

/-- A file the system lets go, at once or as a read-only one of a disposable clone. -/
def Removable (env : Env) (t : Tree) (relative : Text) : Prop :=
  ∃ bytes readOnly, t.at (partsOf relative) = some (.file bytes readOnly) ∧
    (env.refuses (partsOf relative) (.file bytes readOnly) = false ∨
      ".git".toList ∈ env.rootParts ++ partsOf relative ∧ readOnly = true ∧
        env.refuses (partsOf relative) (.file bytes false) = false)

/-- A capture file right in `output` with no name in front of its suffix: the directory it protects is `.`. -/
def Bare (env : Env) (t : Tree) : Prop :=
  ∃ g, IsFile t g ∧ Below g ∧ env.lower (g.getLastD []) ≠ ".git".toList ∧
    ∃ stem, stemOf env (joined g) = some stem ∧ provenSynthetic env t stem = false ∧ partsOf stem = ["output".toList]

/-- What the checks miss: a spelling the scan misreads, or a bare capture. -/
def Overlooked (env : Env) (t : Tree) (relative : Text) : Prop :=
  Bare env t ∨ ∃ source, SourceOf env t source ∧ Misspelled source relative

/-! ### The scan -/

theorem matchFront_prefix {source found : Text} (matched : matchFront source = some found) :
    found <+: source ∧ ∀ c ∈ found, isPathChar c = true := by
  unfold matchFront at matched
  by_cases front : "output".toList <+: source
  · rw [if_pos front] at matched
    obtain ⟨behind, rfl⟩ := front
    have past : ("output".toList ++ behind).drop 6 = behind := rfl
    rw [past] at matched
    cases behind with
    | nil => cases matched
    | cons separator rest =>
      dsimp only at matched
      by_cases taken : (separator = '/' ∨ separator = '\\') ∧ rest.takeWhile isPathChar ≠ []
      · rw [if_pos taken] at matched
        rw [← Option.some.inj matched]
        constructor
        · exact List.prefix_append_right_inj "output".toList |>.mpr
            (List.cons_prefix_cons.mpr ⟨rfl, List.takeWhile_prefix isPathChar⟩)
        · intro c member
          rcases List.mem_append.mp member with name | later
          · have all : "output".toList.all isPathChar = true := rfl
            exact List.all_eq_true.mp all c name
          · rcases List.mem_cons.mp later with rfl | inside
            · rcases taken.1 with rfl | rfl
              · decide
              · decide
            · exact List.mem_takeWhile_imp inside
      · rw [if_neg taken] at matched
        cases matched
  · rw [if_neg front] at matched
    cases matched

theorem findall_past {c : Char} (outside : isPathChar c = false) (rest : Text) {found : Text}
    (listed : found ∈ findall 0 rest) (before : Text) (skip : ℕ)
    (within : skip ≤ ((before ++ c :: rest).takeWhile isPathChar).length) :
    found ∈ findall skip (before ++ c :: rest) := by
  induction before generalizing skip with
  | nil =>
    rw [List.nil_append, List.takeWhile_cons, outside] at within
    have none_ : skip = 0 := Nat.le_zero.mp within
    rw [none_, List.nil_append, findall]
    cases matched : matchFront (c :: rest) with
    | none => exact listed
    | some other =>
      obtain ⟨front, inside⟩ := matchFront_prefix matched
      cases other with
      | nil => exact List.mem_cons_of_mem _ listed
      | cons first later =>
        rw [(List.cons_prefix_cons.mp front).1] at inside
        rw [inside c List.mem_cons_self] at outside
        contradiction
  | cons a before ih =>
    rw [List.cons_append] at within ⊢
    cases skip with
    | succ skip =>
      rw [findall]
      apply ih
      rw [List.takeWhile_cons] at within
      split at within
      · exact Nat.le_of_succ_le_succ within
      · exact absurd within (Nat.not_succ_le_zero skip)
    | zero =>
      rw [findall]
      cases matched : matchFront (a :: (before ++ c :: rest)) with
      | none => exact ih 0 (Nat.zero_le _)
      | some other =>
        apply List.mem_cons_of_mem
        apply ih
        obtain ⟨⟨behind, split_⟩, inside⟩ := matchFront_prefix matched
        have long : other.length ≤ ((a :: (before ++ c :: rest)).takeWhile isPathChar).length := by
          rw [← split_, List.takeWhile_append_of_pos inside, List.length_append]
          exact Nat.le_add_right _ _
        rw [List.takeWhile_cons] at long
        split at long
        · exact Nat.sub_le_of_le_add long
        · rw [Nat.le_zero.mp long]
          exact Nat.zero_le _

theorem findall_behind {before rest found : Text} (begins : Begins before) (listed : found ∈ findall 0 rest) :
    found ∈ findall 0 (before ++ rest) := by
  rcases List.eq_nil_or_concat before with rfl | ⟨front, c, rfl⟩
  · exact listed
  · have outside := begins c (by simp)
    rw [List.concat_eq_append, List.append_assoc, List.singleton_append]
    exact findall_past outside rest listed front 0 (Nat.zero_le _)

/-- Without an escaped backslash a literal has one character for each of its path. -/
theorem spelled_slashed {path literal : Text} (spelled : Spelled path literal) (plain : '\\' ∉ path)
    (single : ¬['\\', '\\'] <:+: literal) : slashed literal = path := by
  induction spelled with
  | nil => rfl
  | @char c path literal other later ih =>
    rw [List.mem_cons, not_or] at plain
    have rest := ih plain.2 fun inside => single (inside.trans (List.suffix_cons c literal).isInfix)
    unfold slashed at rest ⊢
    rw [List.map_cons, rest, if_neg fun same => plain.1 same.symm]
  | @slash separator path literal allowed later ih =>
    rw [List.mem_cons, not_or] at plain
    have rest := ih plain.2 fun inside => single (inside.trans (List.suffix_append separator literal).isInfix)
    unfold slashed at rest ⊢
    rw [List.map_append, rest]
    rcases List.mem_cons.mp allowed with rfl | more
    · rfl
    rcases List.mem_cons.mp more with rfl | last
    · rfl
    · rw [List.mem_singleton.mp last] at single
      exact absurd (List.prefix_append _ literal).isInfix single

theorem spelled_name {name path literal : Text} (flat : '/' ∉ name) (spelled : Spelled (name ++ path) literal) :
    ∃ rest, literal = name ++ rest ∧ Spelled path rest := by
  induction name generalizing literal with
  | nil => exact ⟨literal, rfl, spelled⟩
  | cons c name ih =>
    rw [List.mem_cons, not_or] at flat
    rw [List.cons_append] at spelled
    cases spelled with
    | char other later =>
      obtain ⟨rest, rfl, spelled⟩ := ih flat.2 later
      exact ⟨rest, rfl, spelled⟩
    | slash => exact absurd rfl flat.1

theorem spelled_filled {path literal : Text} (spelled : Spelled path literal) (some_ : path ≠ []) : literal ≠ [] := by
  cases spelled with
  | nil => exact absurd rfl some_
  | char => exact List.cons_ne_nil _ _
  | slash allowed _ =>
    intro empty
    have none_ : ∀ separator ∈ separators, separator ≠ [] := by decide
    exact none_ _ allowed (List.append_eq_nil_iff.mp empty).1

theorem matchFront_literal {rest literal after : Text} (spelled : Spelled ("output".toList ++ '/' :: rest) literal)
    (some_ : rest ≠ []) (read : ¬Misread literal after) : matchFront (literal ++ after) = some literal := by
  unfold Misread at read
  push Not at read
  obtain ⟨single, inside, outside⟩ := read
  obtain ⟨tail, rfl, behind⟩ := @spelled_name "output".toList ('/' :: rest) literal (by decide) spelled
  cases behind with
  | char other _ => exact absurd rfl other
  | @slash separator _ literal allowed later =>
    have one : separator = ['/'] ∨ separator = ['\\'] := by
      rcases List.mem_cons.mp allowed with rfl | more
      · exact Or.inl rfl
      rcases List.mem_cons.mp more with rfl | last
      · exact Or.inr rfl
      · rw [List.mem_singleton.mp last] at single
        have doubled : ['\\', '\\'] <:+: "output".toList ++ (['\\', '\\'] ++ literal) :=
          ⟨"output".toList, literal, by simp⟩
        exact absurd doubled single
    have filled := spelled_filled later some_
    have run : (literal ++ after).takeWhile isPathChar = literal := by
      have all : ∀ c ∈ literal, isPathChar c = true := by
        intro c member
        exact Bool.not_eq_false _ ▸ inside c (by simp [member])
      have stops : after.takeWhile isPathChar = [] := by
        cases after with
        | nil => rfl
        | cons c later => rw [List.takeWhile_cons, if_neg (outside c rfl)]
      rw [List.takeWhile_append_of_pos all, stops, List.append_nil]
    have front : "output".toList <+: "output".toList ++ (separator ++ literal) ++ after := by
      rw [List.append_assoc]
      exact List.prefix_append _ _
    have past : ("output".toList ++ (separator ++ literal ++ after)).drop 6 = separator ++ literal ++ after := rfl
    unfold matchFront
    rw [if_pos front, List.append_assoc, past, List.append_assoc]
    rcases one with rfl | rfl
    · rw [List.singleton_append]
      dsimp only
      rw [run, if_pos ⟨Or.inl rfl, filled⟩, List.singleton_append]
    · rw [List.singleton_append]
      dsimp only
      rw [run, if_pos ⟨Or.inr rfl, filled⟩, List.singleton_append]

theorem named_misspelled {source rest : Text} (some_ : rest ≠ []) (plain : '\\' ∉ "output".toList ++ '/' :: rest)
    (named : Named source ("output".toList ++ '/' :: rest)) (missed : ¬Scanned source ("output".toList ++ '/' :: rest)) :
    Misspelled source ("output".toList ++ '/' :: rest) := by
  obtain ⟨before, literal, after, rfl, begins, spelled, ends⟩ := named
  refine ⟨before, literal, after, rfl, begins, spelled, ends, ?_⟩
  by_contra read
  apply missed
  have matched := matchFront_literal spelled some_ read
  refine List.mem_map.mpr ⟨literal, ?_, spelled_slashed spelled plain fun doubled => read (Or.inl doubled)⟩
  rw [List.append_assoc]
  apply findall_behind begins
  cases whole : literal ++ after with
  | nil =>
    rw [whole] at matched
    cases matched
  | cons c later =>
    rw [whole] at matched
    rw [findall, matched]
    exact List.mem_cons_self

/-! ### The snapshot -/

theorem require_ok {condition : Prop} [Decidable condition] {m : String} :
    require condition m = .ok () ↔ condition := demand_ok

theorem mem_sorted {text : Text} {texts : List Text} : text ∈ sorted texts ↔ text ∈ texts := List.mem_insertionSort _

structure Gathered (env : Env) (t : Tree) (plan : Plan) where
  listed : List Text
  found : Inventory
  ignored : List Text
  references : List Text
  lsFiles : env.lsFiles t = .ok listed
  inventory : inventory env t = .ok found
  verdict : ignoredOf env t (found.files.map Prod.fst ++ found.directories.map (· ++ ['/'])) = .ok ignored
  scanned : explicitInputs env t (sorted listed) found.files = .ok references

def Gathered.verdicts {env : Env} {t : Tree} {plan : Plan} (g : Gathered env t plan) : Verdicts :=
  ⟨sorted g.listed, g.ignored, g.references, (captureAudit env t g.found.files).keepDirs ++ sorted plan.keep.dedup⟩

def Gathered.Rows {env : Env} {t : Tree} {plan : Plan} (g : Gathered env t plan) : Prop :=
  plan.entries = ((sortedBy rowLE g.found.files).filter fun file =>
    (reasonOf env g.verdicts file.1).isNone).map (rowOf env g.verdicts)

theorem snapshot_gathered (taken : snapshot env t plan.keep = .ok plan) :
    ∃ g : Gathered env t plan, g.Rows := by
  unfold snapshot at taken
  simp only [bind_ok] at taken
  obtain ⟨_, _, _, _, listed, ls, found, inv, ignored, verdict, references, scanned, _, sha, _, head, _, status, _, _, same⟩ := taken
  refine ⟨⟨listed, found, ignored, references, ls, inv, verdict, scanned⟩, ?_⟩
  have entries := congrArg Plan.entries (Except.ok.inj same)
  exact entries.symm

/-! ### The files of the inventory -/

/-- What `safe_output` asks of a path alone. -/
structure Canonical (env : Env) (relative : Text) : Prop where
  plain : '\\' ∉ relative ∧ ':' ∉ relative
  spelled : (partsOf relative).head? = some "output".toList ∧ joined (partsOf relative) = relative ∧
    ∀ part ∈ partsOf relative, part ≠ ['.', '.'] ∧ part.getLast? ≠ some ' ' ∧ part.getLast? ≠ some '.'
  git : gitAllowed env (partsOf relative)

theorem safeOutput_ok {relative : Text} : safeOutput env t relative = .ok p ↔
    Canonical env relative ∧ (∀ n ≤ (partsOf relative).length, isLink (t.at ((partsOf relative).take n)) = false) ∧
      p = partsOf relative := by
  simp only [safeOutput, guard_ok, require_ok, Except.ok.injEq]
  constructor
  · rintro ⟨plain, spelled, git, linkFree, same⟩
    exact ⟨⟨plain, spelled, git⟩, linkFree, same.symm⟩
  · rintro ⟨⟨plain, spelled, git⟩, linkFree, same⟩
    exact ⟨plain, spelled, git, linkFree, same.symm⟩

theorem safeOutput_without {relative : Text} {paths : List Path} (passes : safeOutput env t relative = .ok p) :
    safeOutput env (without t paths) relative = .ok p := by
  rw [safeOutput_ok] at passes ⊢
  obtain ⟨canonical, linkFree, same⟩ := passes
  refine ⟨canonical, ?_, same⟩
  intro n low
  rw [at_without]
  by_cases gone : (partsOf relative).take n ∈ paths
  · rw [if_pos gone]
    rfl
  · rw [if_neg gone]
    exact linkFree n low

theorem inventory_ok {found : Inventory} (listed : inventory env t = .ok found) :
    found.files = ((walk env t).filterMap fun entry => fileInfo env entry.1 entry.2) ∧
      ∀ file ∈ found.files, ∃ p, safeOutput env t file.1 = .ok p := by
  simp only [inventory, bind_ok] at listed
  obtain ⟨_, _, _, checked, same⟩ := listed
  rw [← Except.ok.inj same]
  refine ⟨rfl, ?_⟩
  intro file member
  have passes := forM_ok.mp checked file member
  rw [bind_ok] at passes
  obtain ⟨p, passes, _⟩ := passes
  exact ⟨p, passes⟩

theorem mem_files {found : Inventory} (listed : inventory env t = .ok found) {file : Text × Info} :
    file ∈ found.files ↔ ∃ q bytes readOnly, t.at q = some (.file bytes readOnly) ∧ walked env t q = true ∧
      env.lower (q.getLastD []) ≠ ".git".toList ∧ file = (joined q, ⟨bytes.length, env.sha bytes⟩) := by
  rw [(inventory_ok listed).1, List.mem_filterMap]
  constructor
  · rintro ⟨⟨q, node⟩, member, taken⟩
    obtain ⟨there, reached⟩ := List.mem_filter.mp member
    cases node with
    | file bytes readOnly =>
      dsimp only [fileInfo] at taken
      by_cases git : env.lower (q.getLastD []) = ".git".toList
      · rw [if_pos git] at taken
        contradiction
      · rw [if_neg git, Option.some.injEq] at taken
        exact ⟨q, bytes, readOnly, at_eq_some.mpr there, reached, git, taken.symm⟩
    | dir => contradiction
    | link bytes => contradiction
  · rintro ⟨q, bytes, readOnly, there, reached, git, same⟩
    refine ⟨(q, .file bytes readOnly), List.mem_filter.mpr ⟨at_eq_some.mp there, reached⟩, ?_⟩
    dsimp only [fileInfo]
    rw [if_neg git, same]

theorem filterMap_keys {α β γ : Type} {take : α → Option β} {key : β → γ} {name : α → γ} {list : List α}
    (same : ∀ a ∈ list, ∀ b, take a = some b → key b = name a) :
    ((list.filterMap take).map key).Sublist (list.map name) := by
  induction list with
  | nil => exact List.Sublist.slnil
  | cons a later ih =>
    have behind := ih fun b listed => same b (List.mem_cons_of_mem a listed)
    cases held : take a with
    | none =>
      rw [List.filterMap_cons_none held, List.map_cons]
      exact behind.cons _
    | some b =>
      rw [List.filterMap_cons_some held, List.map_cons, List.map_cons, same a List.mem_cons_self b held]
      exact behind.cons_cons _

theorem files_distinct {found : Inventory} (listed : inventory env t = .ok found) :
    (found.files.map fun file => partsOf file.1).Nodup := by
  rw [(inventory_ok listed).1]
  have keys : (((walk env t).filterMap fun entry => fileInfo env entry.1 entry.2).map fun file =>
      partsOf file.1).Sublist ((walk env t).map Prod.fst) := by
    apply filterMap_keys
    rintro ⟨q, node⟩ member file taken
    have there := at_eq_some.mpr (List.mem_filter.mp member).1
    cases node with
    | file bytes readOnly =>
      dsimp only [fileInfo] at taken
      by_cases git : env.lower (q.getLastD []) = ".git".toList
      · rw [if_pos git] at taken
        contradiction
      · rw [if_neg git, Option.some.injEq] at taken
        rw [← taken]
        exact partsOf_joined (good_of_at there)
    | dir => contradiction
    | link bytes => contradiction
  have walkedKeys : ((walk env t).map Prod.fst).Nodup := t.distinct.sublist (List.filter_sublist.map _)
  exact walkedKeys.sublist keys

/-! ### The rows -/

structure RowOf (env : Env) (t : Tree) (v : Verdicts) (row : Row) (q : Path) (bytes : Bytes) (readOnly : Bool) :
    Prop where
  there : t.at q = some (.file bytes readOnly)
  reached : walked env t q = true
  notGit : env.lower (q.getLastD []) ≠ ".git".toList
  path : row.path = joined q
  digest : row.sha256 = env.sha bytes
  unprotected : reasonOf env v row.path = none

theorem row_spec {g : Gathered env t plan} (rows : g.Rows) {row : Row} (listed : row ∈ plan.entries) :
    ∃ q bytes readOnly, RowOf env t g.verdicts row q bytes readOnly := by
  rw [rows, List.mem_map] at listed
  obtain ⟨file, member, same⟩ := listed
  obtain ⟨sorted_, free⟩ := List.mem_filter.mp member
  obtain ⟨q, bytes, readOnly, there, reached, git, shape⟩ := (mem_files g.inventory).mp ((List.mem_insertionSort _).mp sorted_)
  refine ⟨q, bytes, readOnly, there, reached, git, ?_, ?_, ?_⟩
  · rw [← same, shape]
    rfl
  · rw [← same, shape]
    rfl
  · rw [← same]
    exact Option.isNone_iff_eq_none.mp free

theorem row_parts {v : Verdicts} {row : Row} {bytes : Bytes} {readOnly : Bool}
    (spec : RowOf env t v row q bytes readOnly) : partsOf row.path = q := by
  rw [spec.path]
  exact partsOf_joined (good_of_at spec.there)

theorem rows_distinct {g : Gathered env t plan} (rows : g.Rows) :
    (plan.entries.map fun row => partsOf row.path).Nodup := by
  rw [rows, List.map_map]
  have sorted_ : ((sortedBy rowLE g.found.files).map fun file => partsOf file.1).Nodup :=
    (((List.perm_insertionSort _ g.found.files).map fun file => partsOf file.1).nodup_iff).mpr
      (files_distinct g.inventory)
  exact sorted_.sublist (List.filter_sublist.map _)

theorem row_safe {g : Gathered env t plan} (rows : g.Rows) {row : Row} (listed : row ∈ plan.entries) :
    safeOutput env t row.path = .ok (partsOf row.path) := by
  rw [rows, List.mem_map] at listed
  obtain ⟨file, member, same⟩ := listed
  obtain ⟨p, passes⟩ := (inventory_ok g.inventory).2 file ((List.mem_insertionSort _).mp (List.mem_filter.mp member).1)
  rw [← same]
  change safeOutput env t file.1 = .ok (partsOf file.1)
  rw [passes, (safeOutput_ok.mp passes).2.2]

/-! ### What protects -/

theorem reasonOf_none {v : Verdicts} {relative : Text} : reasonOf env v relative = none ↔
    env.lower relative ∉ v.tracked.map env.lower ∧ relative ∈ v.ignored ∧ relative ∉ v.references ∧
      isField env (partsOf relative).tail.dropLast = false ∧ atOrBelow v.guarded relative = false := by
  unfold reasonOf
  by_cases tracked : env.lower relative ∈ v.tracked.map env.lower
  · simp [tracked]
  · by_cases ignored : relative ∈ v.ignored
    · by_cases named : relative ∈ v.references
      · simp [tracked, ignored, named]
      · rw [if_neg tracked, if_neg (not_not.mpr ignored), if_neg named]
        cases field : isField env (partsOf relative).tail.dropLast with
        | true => simp
        | false =>
          cases guarded : atOrBelow v.guarded relative with
          | true => simp
          | false => simp [tracked, ignored, named]
    · rw [if_neg tracked, if_pos ignored]
      simp [ignored]

theorem atOrBelow_of {guarded : List Text} (listed : joined d ∈ guarded) (named : d ≠ []) (reaches : d <+: q.dropLast) :
    atOrBelow guarded (joined q) = true := by
  obtain ⟨between, split⟩ := reaches
  have more : q ≠ [] := by
    intro empty
    rw [empty, List.dropLast_nil, List.append_eq_nil_iff] at split
    exact named split.1
  have whole : q = d ++ (between ++ [q.getLast more]) := by
    rw [← List.append_assoc, split]
    exact (List.dropLast_append_getLast more).symm
  unfold atOrBelow
  rw [List.any_eq_true]
  refine ⟨joined d, listed, decide_eq_true (Or.inr ?_)⟩
  rw [whole, joined_append named (by simp)]
  exact ⟨joined (between ++ [q.getLast more]), by simp⟩

/-- A walk that reaches a file reaches every directory above it, and what is in them. -/
theorem walked_of {g : Path} (reached : walked env t q = true) (below : Below g) (reaches : g.dropLast <+: q.dropLast) :
    walked env t g = true := by
  unfold walked at reached ⊢
  rw [decide_eq_true_iff] at reached ⊢
  obtain ⟨long, _, output, dirs⟩ := reached
  refine ⟨below.2, below.1, output, ?_⟩
  intro n low high
  have short : n ≤ g.dropLast.length := by
    rw [List.length_dropLast]
    omega
  have inside := reaches.length_le
  rw [List.length_dropLast, List.length_dropLast] at inside
  have same : g.take n = q.take n := by
    obtain ⟨rest, split⟩ := reaches
    have front : g.dropLast.take n = q.dropLast.take n := by
      rw [← split, List.take_append_of_le_length short]
    rw [List.dropLast_eq_take, List.dropLast_eq_take, List.take_take, List.take_take] at front
    rw [List.length_dropLast] at short
    rw [Nat.min_eq_left (by omega), Nat.min_eq_left (by omega)] at front
    exact front
  rw [same]
  exact dirs n (by omega) high

theorem stem_shape {g : Path} {stem : Text} (good : ∀ name ∈ g, GoodName name) (below : Below g)
    (family : stemOf env (joined g) = some stem) :
    ∃ base, '/' ∉ base ∧ stem = joined (g.dropLast ++ [base]) := by
  have long : 2 ≤ g.length := below.2
  have more : g ≠ [] := by
    intro empty
    rw [empty] at long
    contradiction
  have dirs : g.dropLast ≠ [] := by
    intro empty
    have none_ := congrArg List.length empty
    rw [List.length_dropLast, List.length_nil] at none_
    omega
  have whole : joined g = joined g.dropLast ++ '/' :: g.getLast more := by
    conv_lhs => rw [← List.dropLast_append_getLast more]
    rw [joined_append dirs (by simp), joined_single]
  obtain ⟨suffix, found, same⟩ := Option.map_eq_some_iff.mp family
  have known := List.mem_of_find?_eq_some found
  have ends := List.find?_some found
  rw [decide_eq_true_iff] at ends
  obtain ⟨fits, flat⟩ := env.lower_suffix (joined g) suffix known ends
  rw [whole] at flat same
  generalize (joined g.dropLast ++ '/' :: g.getLast more).length - suffix.length = cut at flat same
  have behind : (joined g.dropLast).length < cut := by
    by_contra short
    apply flat
    rw [List.drop_append_of_le_length (by omega)]
    simp
  refine ⟨(g.getLast more).take (cut - (joined g.dropLast).length - 1), ?_, ?_⟩
  · intro slash
    exact (good _ (List.getLast_mem more)).2.1 (List.mem_of_mem_take slash)
  · have rest : cut - (joined g.dropLast).length = cut - (joined g.dropLast).length - 1 + 1 := by omega
    rw [← same, joined_append dirs (by simp), joined_single, List.take_append, List.take_of_length_le (by omega), rest,
      List.take_succ_cons, Nat.add_sub_cancel]

/-- The parts of a stem: the directory, and what is left of the name, if it is a name. -/
theorem partsOf_stem {base : Text} (good : ∀ name ∈ d, GoodName name) (flat : '/' ∉ base) :
    partsOf (joined (d ++ [base])) = d ∨ partsOf (joined (d ++ [base])) = d ++ [base] := by
  have split : (joined (d ++ [base])).splitOn '/' = d ++ [base] := by
    apply List.splitOn_intercalate '/' _ (by simp)
    intro name listed
    rcases List.mem_append.mp listed with dir | last
    · exact (good name dir).2.1
    · rw [List.mem_singleton.mp last]
      exact flat
  have dirs : d.filter (fun part => part ≠ [] ∧ part ≠ ['.']) = d := by
    rw [List.filter_eq_self]
    intro name listed
    exact decide_eq_true ⟨(good name listed).1, (good name listed).2.2⟩
  unfold partsOf
  rw [split, List.filter_append, dirs]
  by_cases name : base ≠ [] ∧ base ≠ ['.']
  · right
    simp [name.1, name.2]
  · left
    have gone : [base].filter (fun part => part ≠ [] ∧ part ≠ ['.']) = [] := by
      rw [List.filter_eq_nil_iff]
      intro part listed
      rw [List.mem_singleton.mp listed, decide_eq_true_iff]
      exact name
    rw [gone, List.append_nil]

/-- An uncertain capture guards its directory, unless it is a bare one. -/
theorem capture_guards {found : Inventory} (listed : inventory env t = .ok found) {g : Path}
    (uncertain : Uncertain env t g) (reached : walked env t g = true) :
    Bare env t ∨ ∃ d, d ≠ [] ∧ d <+: g.dropLast ∧ joined d ∈ (captureAudit env t found.files).keepDirs := by
  obtain ⟨⟨bytes, readOnly, there⟩, below, git, evidence⟩ := uncertain
  have good := good_of_at there
  have dirs : g.dropLast ≠ [] := by
    intro empty
    have none_ := congrArg List.length empty
    have long := below.2
    rw [List.length_dropLast, List.length_nil] at none_
    omega
  have file : (joined g, (⟨bytes.length, env.sha bytes⟩ : Info)) ∈ found.files :=
    (mem_files listed).mpr ⟨g, bytes, readOnly, there, reached, git, rfl⟩
  rcases evidence with ⟨stem, family, unproven⟩ | named
  · obtain ⟨base, flat, shape⟩ := stem_shape good below family
    have kept : parentOf stem ∈ (captureAudit env t found.files).keepDirs := by
      unfold captureAudit
      dsimp only
      rw [mem_sorted, List.mem_dedup, List.mem_append]
      right
      refine List.mem_map.mpr ⟨stem, List.mem_filter.mpr ⟨?_, by simp [unproven]⟩, rfl⟩
      rw [mem_sorted, List.mem_dedup, List.mem_filterMap]
      exact ⟨_, file, family⟩
    have some_ : ∀ name ∈ g.dropLast, GoodName name := fun name member => good name (List.dropLast_subset g member)
    rcases partsOf_stem some_ flat with none_ | last
    · by_cases top : g.dropLast.dropLast = []
      · left
        have head : g.dropLast = ["output".toList] := by
          obtain ⟨name, one⟩ : ∃ name, g.dropLast = [name] := by
            cases held : g.dropLast with
            | nil => exact absurd held dirs
            | cons name later =>
              rw [held] at top
              cases later with
              | nil => exact ⟨name, rfl⟩
              | cons _ _ => exact absurd top (by simp)
          have first := below.1
          cases g with
          | nil => contradiction
          | cons c rest =>
            cases rest with
            | nil => exact absurd rfl dirs
            | cons _ _ =>
              rw [List.dropLast_cons_cons] at one ⊢
              rw [List.head?_cons, Option.some.injEq] at first
              rw [first] at one ⊢
              rw [(List.cons.inj one).2]
        refine ⟨g, ⟨bytes, readOnly, there⟩, below, git, stem, family, unproven, ?_⟩
        rw [shape, none_, head]
      · right
        refine ⟨g.dropLast.dropLast, top, List.dropLast_prefix _, ?_⟩
        unfold parentOf at kept
        rw [shape, none_, if_neg top] at kept
        exact kept
    · right
      refine ⟨g.dropLast, dirs, List.prefix_rfl, ?_⟩
      unfold parentOf at kept
      rw [shape, last, List.dropLast_concat, if_neg dirs] at kept
      exact kept
  · right
    refine ⟨g.dropLast, dirs, List.prefix_rfl, ?_⟩
    unfold captureAudit
    dsimp only
    rw [mem_sorted, List.mem_dedup, List.mem_append]
    left
    refine List.mem_map.mpr ⟨_, List.mem_filter.mpr ⟨file, ?_⟩, ?_⟩
    · unfold baseName
      rw [partsOf_joined good]
      exact decide_eq_true named
    · unfold parentOf
      rw [partsOf_joined good, if_neg dirs]

theorem ignored_verdict {candidates ignored : List Text} {relative : Text}
    (asked : ignoredOf env t candidates = .ok ignored) (member : relative ∈ ignored) :
    ∃ verdict, env.checkIgnore t = .ok verdict ∧ verdict relative = true := by
  unfold ignoredOf at asked
  by_cases empty : candidates = []
  · rw [if_pos empty, Except.ok.injEq] at asked
    rw [← asked] at member
    exact absurd member List.not_mem_nil
  · rw [if_neg empty, bind_ok] at asked
    obtain ⟨verdict, answered, same⟩ := asked
    rw [← Except.ok.inj same] at member
    exact ⟨verdict, answered, (List.mem_filter.mp member).2⟩

/-- A path a source is scanned to name is among the references. -/
theorem mem_references (g : Gathered env t plan) {source path : Text} (of_ : SourceOf env t source)
    (scanned : Scanned source path) (file : path ∈ g.found.files.map Prod.fst) : path ∈ g.references := by
  obtain ⟨listed, named, relative, member, isOne, read⟩ := of_
  have inputs := g.scanned
  unfold explicitInputs at inputs
  rw [bind_ok] at inputs
  obtain ⟨sources, all, same⟩ := inputs
  have held : listed = g.listed := Except.ok.inj (named.symm.trans g.lsFiles)
  have here : source ∈ sources := by
    apply mem_of_mapM all _ read
    exact List.mem_filter.mpr ⟨mem_sorted.mpr (held ▸ member), isOne⟩
  rw [← Except.ok.inj same, mem_sorted, List.mem_dedup, List.mem_filter, List.map_flatMap]
  exact ⟨List.mem_flatMap.mpr ⟨source, here, scanned⟩, decide_eq_true file⟩

theorem joined_below (good : ∀ name ∈ q, GoodName name) (below : Below q) :
    ∃ rest, rest ≠ [] ∧ joined q = "output".toList ++ '/' :: rest := by
  obtain ⟨top, long⟩ := below
  cases q with
  | nil => contradiction
  | cons name later =>
    rw [List.head?_cons, Option.some_inj] at top
    cases later with
    | nil => exact absurd long (by simp)
    | cons next more =>
      refine ⟨joined (next :: more), ?_, ?_⟩
      · intro empty
        have same := partsOf_joined fun name member => good name (List.mem_cons_of_mem _ member)
        rw [empty] at same
        cases same
      · have apart := joined_append (d := [name]) (p := next :: more) (List.cons_ne_nil _ _) (List.cons_ne_nil _ _)
        rw [joined_single, List.singleton_append] at apart
        rw [apart, top]

/-- A row is of a file that no check protects, as far as the checks see. -/
theorem row_expendable {g : Gathered env t plan} {row : Row} {bytes : Bytes} {readOnly : Bool}
    (spec : RowOf env t g.verdicts row q bytes readOnly) (seen : ¬Overlooked env t row.path) :
    Expendable env t plan q := by
  have good := good_of_at spec.there
  have parts := partsOf_joined good
  have file : (joined q, (⟨bytes.length, env.sha bytes⟩ : Info)) ∈ g.found.files :=
    (mem_files g.inventory).mpr ⟨q, bytes, readOnly, spec.there, spec.reached, spec.notGit, rfl⟩
  have free := reasonOf_none.mp spec.unprotected
  rw [spec.path] at free seen
  obtain ⟨untracked, ignored, unnamed, field, unguarded⟩ := free
  have below : Below q := by
    have reached := spec.reached
    unfold walked at reached
    rw [decide_eq_true_iff] at reached
    exact ⟨reached.2.1, reached.1⟩
  constructor
  · exact below
  · refine ⟨g.listed, g.lsFiles, ?_⟩
    intro tracked
    apply untracked
    obtain ⟨name, member, same⟩ := List.mem_map.mp tracked
    exact List.mem_map.mpr ⟨name, mem_sorted.mpr member, same⟩
  · exact ignored_verdict g.verdict ignored
  · intro part member inside
    rw [parts] at field
    have found : isField env q.tail.dropLast = true := List.any_eq_true.mpr ⟨part, member, decide_eq_true inside⟩
    rw [found] at field
    contradiction
  · intro k kept
    have apart := List.any_eq_false.mp unguarded k
      (List.mem_append_right _ (mem_sorted.mpr (List.mem_dedup.mpr kept)))
    rw [decide_eq_true_iff, not_or] at apart
    exact apart
  · intro c uncertain reaches
    rcases capture_guards g.inventory uncertain (walked_of spec.reached uncertain.2.1 reaches) with bare | guarded
    · exact seen (Or.inl bare)
    · obtain ⟨d, some_, front, listed⟩ := guarded
      have guards := atOrBelow_of (List.mem_append_left (sorted plan.keep.dedup) listed) some_ (front.trans reaches)
      change atOrBelow g.verdicts.guarded (joined q) = true at guards
      rw [guards] at unguarded
      contradiction
  · intro source of_ named
    by_cases scanned : Scanned source (joined q)
    · exact unnamed (mem_references g of_ scanned (List.mem_map_of_mem (f := Prod.fst) file))
    obtain ⟨rest, some_, shape⟩ := joined_below good below
    obtain ⟨_, safe⟩ := (inventory_ok g.inventory).2 _ file
    have plain := (safeOutput_ok.mp safe).1.plain.1
    dsimp only at plain
    rw [shape] at named scanned plain seen
    exact seen (Or.inr ⟨source, of_, named_misspelled some_ plain named scanned⟩)

theorem Expendable.seen (expendable : Expendable env t plan q) : ¬Overlooked env t (joined q) := by
  rintro (⟨g, file, below, git, stem, family, unproven, parts⟩ |
    ⟨source, of_, before, literal, after, split_, begins, spelled, ends, _⟩)
  · apply expendable.certain g ⟨file, below, git, Or.inl ⟨stem, family, unproven⟩⟩
    obtain ⟨bytes, readOnly, there⟩ := file
    have good := good_of_at there
    obtain ⟨base, flat, shape⟩ := stem_shape good below family
    have some_ : ∀ name ∈ g.dropLast, GoodName name := fun name member => good name (List.dropLast_subset g member)
    have long := below.2
    have size : g.dropLast.length = g.length - 1 := List.length_dropLast
    rw [shape] at parts
    have top : g.dropLast = ["output".toList] := by
      rcases partsOf_stem some_ flat with none_ | last
      · rw [← none_, parts]
      · rw [last] at parts
        have one := congrArg List.length parts
        rw [List.length_append, List.length_singleton, List.length_singleton] at one
        omega
    rw [top]
    have first := expendable.below.1
    have more := expendable.below.2
    cases q with
    | nil => contradiction
    | cons name rest =>
      cases rest with
      | nil => exact absurd more (by simp)
      | cons next later =>
        rw [List.head?_cons, Option.some.injEq] at first
        rw [List.dropLast_cons_cons, first]
        exact ⟨_, rfl⟩
  · exact expendable.unnamed source of_ ⟨before, literal, after, split_, begins, spelled, ends⟩

/-! ### The removal -/

def paths (rows : List Row) : List Path := rows.map fun row => partsOf row.path

structure Emptied (env : Env) (t : Tree) (plan : Plan) (base : Tree) (gone : List Row) : Prop where
  stopped : ∃ rest, plan.entries = gone ++ rest ∧ ∀ row ∈ rest.head?, ¬Removable env t row.path
  removable : ∀ row ∈ gone, Removable env t row.path
  removed : ∀ q ∈ paths gone, base.at q = none
  kept : ∀ q, q ∉ paths gone → base.at q = t.at q ∨
    ∃ bytes before after, t.at q = some (.file bytes before) ∧ base.at q = some (.file bytes after)

theorem emptied_without {gone rest : List Row} (split : plan.entries = gone ++ rest)
    (stuck : ∀ row ∈ rest.head?, ¬Removable env t row.path) (removable : ∀ row ∈ gone, Removable env t row.path) :
    Emptied env t plan (without t (paths gone)) gone := by
  refine ⟨⟨rest, split, stuck⟩, removable, ?_, ?_⟩
  · intro q listed
    rw [at_without, if_pos listed]
  · intro q unlisted
    left
    rw [at_without, if_neg unlisted]

/-- What is left where the removal of a read-only file is refused twice: only its mode has changed. -/
theorem Emptied.writable {gone : List Row} {bytes : Bytes} {readOnly mode : Bool} (emptied : Emptied env t plan s gone)
    (there : t.at p = some (.file bytes readOnly)) (here : s.at p = some (.file bytes readOnly)) :
    Emptied env t plan (s.put p (.file bytes mode)) gone := by
  have present : s.at p ≠ none := by
    rw [here]
    simp
  refine ⟨emptied.stopped, emptied.removable, ?_, ?_⟩
  · intro q listed
    have none_ := emptied.removed q listed
    rw [at_put present, if_neg]
    · exact none_
    · intro same
      rw [same] at none_
      exact present none_
  · intro q unlisted
    rw [at_put present]
    by_cases same : q = p
    · rw [if_pos same, same]
      exact Or.inr ⟨bytes, readOnly, mode, there, rfl⟩
    · rw [if_neg same]
      exact emptied.kept q unlisted

theorem removeFile_yields {g : Gathered env t plan} (rows : g.Rows) {before after : List Row} {row : Row}
    (split : plan.entries = before ++ row :: after) (removable : ∀ r ∈ before, Removable env t r.path) :
    Yields (fun e : Tree × String => Emptied env t plan e.1 before)
      (fun u => u = without t (paths (before ++ [row])) ∧ Removable env t row.path)
      (removeFile env (without t (paths before)) row) := by
  have listed : row ∈ plan.entries := by
    rw [split]
    simp
  obtain ⟨q, bytes, readOnly, spec⟩ := row_spec rows listed
  have parts := row_parts spec
  have new : q ∉ paths before := by
    have distinct := rows_distinct rows
    rw [split, List.map_append, List.map_cons, parts, List.nodup_append] at distinct
    intro old
    exact distinct.2.2 q old q List.mem_cons_self rfl
  have here : (without t (paths before)).at q = some (.file bytes readOnly) := by
    rw [at_without, if_neg new]
    exact spec.there
  have left_ : ∀ stuck : ¬Removable env t row.path, Emptied env t plan (without t (paths before)) before := by
    intro stuck
    apply emptied_without split _ removable
    intro r first
    rw [List.head?_cons, Option.mem_some_iff] at first
    rw [← first]
    exact stuck
  have gone : (without t (paths before)).remove q = without t (paths (before ++ [row])) := by
    rw [without_remove]
    unfold paths
    rw [List.map_append, List.map_singleton, parts]
  have passes : safeOutput env (without t (paths before)) row.path = .ok q := by
    rw [← parts]
    exact safeOutput_without (row_safe rows listed)
  have read : (without t (paths before)).read q = some bytes := by
    unfold Tree.read
    rw [here]
  have same : (((without t (paths before)).read q).map env.sha = some row.sha256) := by
    rw [read, spec.digest]
    rfl
  have run : removeFile env (without t (paths before)) row = unlink env (without t (paths before)) q := by
    unfold removeFile
    rw [passes]
    change (raising _ (require _ _) >>= fun _ => unlink env _ q) = _
    rw [require_ok.mpr same]
    rfl
  rw [run]
  unfold unlink
  rw [here]
  dsimp only
  by_cases free : env.refuses q (.file bytes readOnly) = false
  · rw [if_pos free]
    exact ⟨gone, bytes, readOnly, parts.symm ▸ spec.there, parts.symm ▸ Or.inl free⟩
  · rw [if_neg free]
    by_cases clone : ".git".toList ∈ env.rootParts ++ q ∧ readOnly = true
    · rw [if_pos clone]
      by_cases again : env.refuses q (.file bytes false) = false
      · rw [if_pos again]
        exact ⟨gone, bytes, readOnly, parts.symm ▸ spec.there, parts.symm ▸ Or.inr ⟨clone.1, clone.2, again⟩⟩
      · rw [if_neg again]
        apply Emptied.writable (left_ _) spec.there here
        rintro ⟨bytes', mode, there, granted | ⟨_, _, granted⟩⟩
        all_goals
          rw [parts, spec.there, Option.some.injEq, Node.file.injEq] at there
          rw [parts, ← there.1] at granted
        · rw [← there.2] at granted
          exact free granted
        · exact again granted
    · rw [if_neg clone]
      apply left_
      rintro ⟨bytes', mode, there, granted | ⟨inside, locked, _⟩⟩
      all_goals rw [parts, spec.there, Option.some.injEq, Node.file.injEq] at there
      · rw [parts, ← there.1, ← there.2] at granted
        exact free granted
      · rw [parts] at inside
        exact clone ⟨inside, there.2.trans locked⟩

theorem removeFiles_yields {g : Gathered env t plan} (rows : g.Rows) :
    Yields (fun e : Tree × String => ∃ gone, Emptied env t plan e.1 gone)
      (fun u => Emptied env t plan u plan.entries) (plan.entries.foldlM (removeFile env) t) := by
  have run : Yields (fun e : Tree × String => ∃ gone, Emptied env t plan e.1 gone)
      (fun u => u = without t (paths plan.entries) ∧ ∀ r ∈ plan.entries, Removable env t r.path)
      (plan.entries.foldlM (removeFile env) t) := by
    apply Yields.foldlM fun before s => s = without t (paths before) ∧ ∀ r ∈ before, Removable env t r.path
    · rintro before row after s split ⟨same, removable⟩
      have step := removeFile_yields rows split removable
      rw [← same] at step
      cases ran : removeFile env s row with
      | error e =>
        rw [ran] at step
        exact ⟨before, step⟩
      | ok u =>
        rw [ran] at step
        refine ⟨step.1, ?_⟩
        intro r listed
        rcases List.mem_append.mp listed with old | new
        · exact removable r old
        · rw [List.mem_singleton.mp new]
          exact step.2
    · exact ⟨without_nil.symm, fun r listed => absurd listed List.not_mem_nil⟩
  apply Yields.mono run
  rintro u ⟨same, removable⟩
  rw [same]
  exact emptied_without (List.append_nil _).symm (fun row none_ => absurd none_ (by simp)) removable

def Pruned (base s : Tree) : Prop :=
  ∀ q, s.at q = base.at q ∨ base.at q = some .dir ∧ s.at q = none ∧ s.children q = []

theorem Pruned.same {base : Tree} (pruned : Pruned base s) (other : base.at q ≠ some .dir) : s.at q = base.at q := by
  rcases pruned q with same | ⟨dir, _⟩
  · exact same
  · exact absurd dir other

theorem children_remove (empty : s.children q = []) : (s.remove p).children q = [] := by
  unfold Tree.children at empty ⊢
  rw [List.filter_eq_nil_iff] at empty ⊢
  intro child listed
  exact empty child ((List.filter_sublist.map Prod.fst).subset listed)

theorem removeDirectory_yields {base : Tree} (c : Cleared) (relative : Text) (pruned : Pruned base c.tree) :
    Yields (fun e : Tree × String => Pruned base e.1) (fun d => Pruned base d.tree) (removeDirectory env c relative) := by
  unfold removeDirectory
  cases safe : safeOutput env c.tree relative with
  | error m => exact pruned
  | ok p =>
    change Yields _ _ (if _ then _ else _)
    by_cases empty : c.tree.at p = some .dir ∧ c.tree.children p = []
    · rw [if_pos empty]
      by_cases free : env.refuses p .dir = false
      · rw [if_pos free]
        intro q
        dsimp only
        rw [at_remove]
        by_cases here : q = p
        · rw [if_pos here, here]
          right
          refine ⟨?_, rfl, children_remove empty.2⟩
          rcases pruned p with same | ⟨_, none_, _⟩
          · rw [← same]
            exact empty.1
          · rw [none_] at empty
            exact absurd empty.1 (by simp)
        · rw [if_neg here]
          rcases pruned q with same | ⟨old, none_, bare⟩
          · exact Or.inl same
          · exact Or.inr ⟨old, none_, children_remove bare⟩
      · rw [if_neg free]
        exact pruned
    · rw [if_neg empty]
      exact pruned

def Left (env : Env) (t : Tree) (plan : Plan) (final : Tree) : Prop :=
  ∃ base gone, Emptied env t plan base gone ∧ Pruned base final

theorem Pruned.rfl_ : Pruned s s := fun _ => Or.inl rfl

theorem applyPlan_left {g : Gathered env t plan} (rows : g.Rows) {active : Except String (List Text)}
    (admitted : admitPlan env t plan active = .ok ()) : Left env t plan (finalTree (applyPlan env t plan active)) := by
  have run : Yields (fun e : Tree × String => Left env t plan e.1) (fun r : Receipt => Left env t plan r.tree)
      (applyPlan env t plan active) := by
    unfold applyPlan
    rw [admitted]
    have files : Yields (fun e : Tree × String => Left env t plan e.1) (fun u => Emptied env t plan u plan.entries)
        (plan.entries.foldlM (removeFile env) t) := by
      have first := removeFiles_yields rows
      cases ran : plan.entries.foldlM (removeFile env) t with
      | error e =>
        rw [ran] at first
        obtain ⟨gone, emptied⟩ := first
        exact ⟨e.1, gone, emptied, Pruned.rfl_⟩
      | ok u =>
        rw [ran] at first
        exact first
    apply Yields.bind files
    intro emptied held
    have directories : Yields (fun e : Tree × String => Pruned emptied e.1) (fun c : Cleared => Pruned emptied c.tree)
        ((sortedBy deeperLE plan.directories).foldlM (removeDirectory env) ⟨emptied, []⟩) := by
      apply Yields.foldlM fun _ (c : Cleared) => Pruned emptied c.tree
      · intro _ relative _ c _ pruned
        exact removeDirectory_yields c relative pruned
      · exact Pruned.rfl_
    have cleared : Yields (fun e : Tree × String => Left env t plan e.1) (fun c : Cleared => Left env t plan c.tree)
        ((sortedBy deeperLE plan.directories).foldlM (removeDirectory env) ⟨emptied, []⟩) := by
      cases ran : (sortedBy deeperLE plan.directories).foldlM (removeDirectory env) ⟨emptied, []⟩ with
      | error e =>
        rw [ran] at directories
        exact ⟨emptied, plan.entries, held, directories⟩
      | ok c =>
        rw [ran] at directories
        exact ⟨emptied, plan.entries, held, directories⟩
    apply Yields.bind cleared
    intro c left_
    cases checked : checkAfter env plan c with
    | error m => exact left_
    | ok receipt =>
      have tree : receipt.tree = c.tree := by
        simp only [checkAfter, bind_ok] at checked
        obtain ⟨_, _, _, _, _, _, _, _, _, _, same⟩ := checked
        rw [← Except.ok.inj same]
      change Left env t plan receipt.tree
      rw [tree]
      exact left_
  cases ran : applyPlan env t plan active with
  | error e =>
    rw [ran] at run
    exact run
  | ok receipt =>
    rw [ran] at run
    exact run

theorem safeRun_iff {active : Except String (List Text)} {gone : List Row} {base : Tree}
    (emptied : Emptied env t plan base gone) (pruned : Pruned base (finalTree (applyPlan env t plan active))) :
    SafeRun env t plan active ↔ ∀ row ∈ gone, Expendable env t plan (partsOf row.path) := by
  constructor
  · intro safe row listed
    obtain ⟨bytes, readOnly, there, _⟩ := emptied.removable row listed
    have none_ := emptied.removed (partsOf row.path) (List.mem_map_of_mem listed)
    rcases safe.files _ bytes readOnly there with ⟨mode, still⟩ | ⟨_, expendable⟩
    · rw [pruned.same (by simp [none_]), none_] at still
      contradiction
    · exact expendable
  · intro expendable
    have unmoved : ∀ q, (∀ bytes readOnly, t.at q ≠ some (.file bytes readOnly)) → base.at q = t.at q := by
      intro q none_
      by_cases listed : q ∈ paths gone
      · obtain ⟨row, member, same⟩ := List.mem_map.mp listed
        obtain ⟨bytes, readOnly, there, _⟩ := emptied.removable row member
        rw [same] at there
        exact absurd there (none_ bytes readOnly)
      · rcases emptied.kept q listed with same | ⟨bytes, before, _, there, _⟩
        · exact same
        · exact absurd there (none_ bytes before)
    constructor
    · intro q bytes readOnly there
      by_cases listed : q ∈ paths gone
      · right
        obtain ⟨row, member, same⟩ := List.mem_map.mp listed
        have none_ := emptied.removed q listed
        have other : base.at q ≠ some .dir := by simp [none_]
        rw [pruned.same other, none_]
        exact ⟨rfl, same ▸ expendable row member⟩
      · left
        have held : ∃ mode, base.at q = some (.file bytes mode) := by
          rcases emptied.kept q listed with same | ⟨bytes', before, after, was, is⟩
          · exact ⟨readOnly, same.trans there⟩
          · rw [there, Option.some.injEq, Node.file.injEq] at was
            exact ⟨after, was.1 ▸ is⟩
        obtain ⟨mode, held⟩ := held
        exact ⟨mode, (pruned.same (by simp [held])).trans held⟩
    · intro q there
      have held := unmoved q (by simp [there])
      rcases pruned q with still | ⟨_, none_, bare⟩
      · exact Or.inl (still.trans (held.trans there))
      · exact Or.inr ⟨none_, bare⟩
    · intro q bytes there
      have held := (unmoved q (by simp [there])).trans there
      exact (pruned.same (by simp [held])).trans held
    · intro q there
      have held := (unmoved q (by simp [there])).trans there
      exact (pruned.same (by simp [held])).trans held

theorem admitPlan_ok {active : Except String (List Text)} :
    admitPlan env t plan active = .ok () ↔ ¬Refused env t plan active := by
  unfold admitPlan Refused
  rw [guard_ok, require_ok, bind_ok, not_or, not_or, not_not, not_not, not_not]
  constructor
  · rintro ⟨version, current, taken, idle⟩
    rw [guard_ok, require_ok, bind_ok] at idle
    obtain ⟨same, tasks, found, none_⟩ := idle
    rw [same] at taken
    rw [require_ok.mp none_] at found
    exact ⟨version, taken, found⟩
  · rintro ⟨version, taken, found⟩
    refine ⟨version, plan, taken, ?_⟩
    rw [guard_ok, require_ok, bind_ok]
    exact ⟨rfl, [], found, require_ok.mpr rfl⟩

theorem refused_safe {active : Except String (List Text)} (refused : Refused env t plan active) :
    SafeRun env t plan active := by
  have final : finalTree (applyPlan env t plan active) = t := by
    unfold applyPlan
    cases checked : admitPlan env t plan active with
    | error m => rfl
    | ok u => exact absurd refused (admitPlan_ok.mp checked)
  constructor
  all_goals rw [final]
  · intro q bytes readOnly there
    exact Or.inl ⟨readOnly, there⟩
  · intro q there
    exact Or.inl there
  · intro q bytes there
    exact there
  · intro q there
    exact there

/-- A run is safe exactly when it is refused, or none of the files it gets to remove is one the checks overlook. -/
theorem cleanup_safe (env : Env) (t : Tree) (plan : Plan) (active : Except String (List Text)) :
    SafeRun env t plan active ↔ Refused env t plan active ∨
      ∀ before row after, plan.entries = before ++ row :: after →
        (∀ r ∈ before ++ [row], Removable env t r.path) → ¬Overlooked env t row.path := by
  by_cases refused : Refused env t plan active
  · exact ⟨fun _ => Or.inl refused, fun _ => refused_safe refused⟩
  · rw [or_iff_right refused]
    have taken : snapshot env t plan.keep = .ok plan := by
      by_contra other
      exact refused (Or.inr (Or.inl other))
    obtain ⟨g, rows⟩ := snapshot_gathered taken
    obtain ⟨base, gone, emptied, pruned⟩ := applyPlan_left rows (admitPlan_ok.mpr refused)
    rw [safeRun_iff emptied pruned]
    obtain ⟨rest, whole, stuck⟩ := emptied.stopped
    constructor
    · intro expendable before row after split removable
      have reached : row ∈ gone := by
        have lists := whole.symm.trans split
        rcases List.append_eq_append_iff.mp lists with ⟨more, front, back⟩ | ⟨more, front, back⟩
        · cases more with
          | nil =>
            rw [List.nil_append] at back
            exact absurd (removable row (by simp)) (stuck row (by simp [back]))
          | cons next later =>
            have first : rest.head? = some next := by simp [back]
            exact absurd (removable next (by simp [front])) (stuck next (by simp [first]))
        · cases more with
          | nil =>
            rw [List.nil_append] at back
            exact absurd (removable row (by simp)) (stuck row (by simp [← back]))
          | cons next later =>
            rw [front, (List.cons.inj back).1]
            simp
      have seen := (expendable row reached).seen
      have listed : row ∈ plan.entries := by
        rw [split]
        simp
      obtain ⟨q, bytes, readOnly, spec⟩ := row_spec rows listed
      rw [row_parts spec, ← spec.path] at seen
      exact seen
    · intro seen row reached
      obtain ⟨before, after, split⟩ := List.append_of_mem reached
      have all : plan.entries = before ++ row :: (after ++ rest) := by
        rw [whole, split]
        simp
      have listed : row ∈ plan.entries := by
        rw [all]
        simp
      obtain ⟨q, bytes, readOnly, spec⟩ := row_spec rows listed
      rw [row_parts spec]
      apply row_expendable spec
      apply seen before row (after ++ rest) all
      intro r listed
      apply emptied.removable r
      rw [split]
      rcases List.mem_append.mp listed with old | new
      · exact List.mem_append_left _ old
      · rw [List.mem_singleton.mp new]
        simp

/-! ### An escaped backslash -/

def bytesOf (text : Text) : Bytes := text.map fun c => BitVec.ofNat 8 c.toNat

def fixtureTool : Bytes := bytesOf "path = 'output\\\\a.bin'\n".toList

/-- A checkout whose tool names `output/a.bin` as Python spells a Windows path. -/
def fixture : Tree where
  nodes :=
    [([".gitignore".toList], .file (bytesOf "output/\n".toList) false),
      (["tools".toList], .dir),
      (["tools".toList, "load.py".toList], .file fixtureTool false),
      (["output".toList], .dir),
      (["output".toList, "a.bin".toList], .file [] false)]
  distinct := by decide +kernel
  named := by decide +kernel

theorem lower_suffix_of (text suffix : Text) (known : suffix ∈ suffixes) (ends : suffix <:+ text.map Char.toLower) :
    suffix.length ≤ text.length ∧ '/' ∉ text.drop (text.length - suffix.length) := by
  have fits := ends.length_le
  rw [List.length_map] at fits
  refine ⟨fits, ?_⟩
  intro slash
  have tail : (text.map Char.toLower).drop (text.length - suffix.length) = suffix := by
    obtain ⟨front, split⟩ := ends
    have size := congrArg List.length split
    rw [List.length_append, List.length_map] at size
    have place : text.length - suffix.length = front.length := by omega
    rw [← split, place, List.drop_left]
  rw [← List.map_drop] at tail
  have inside : '/' ∈ suffix := by
    rw [← tail]
    exact List.mem_map.mpr ⟨'/', slash, rfl⟩
  have none_ : ∀ one ∈ suffixes, '/' ∉ one := by decide
  exact none_ suffix known inside

def fixtureSha (bytes : Bytes) : Text :=
  if bytes = [] then "E3B0C44298FC1C149AFBF4C8996FB92427AE41E4649B934CA495991B7852B855".toList
  else if bytes = fixtureTool then "0196AC581AC8410E10E6E3874F68B479E475E840C8140EF13A1A3CD55EA9D893".toList
  else "B5726D3EC9335A09C124469ECA039523847A6B0F08A083EFAEFD002B83326600".toList

def fixtureEnv : Env where
  lower := fun text => text.map Char.toLower
  lower_suffix := lower_suffix_of
  isWord := fun c => c.isAlphanum ∨ c = '_'
  isDigit := Char.isDigit
  sha := fixtureSha
  decode := fun bytes => bytes.map fun byte => Char.ofNat byte.toNat
  loads := fun _ => none
  root := "C:\\sd700".toList
  rootParts := ["C:\\".toList, "sd700".toList]
  isCheckout := fun _ => .ok true
  lsFiles := fun _ => .ok [".gitignore".toList, "tools/load.py".toList]
  checkIgnore := fun _ => .ok fun path => "output/".toList <+: path
  head := fun _ => .ok "3f0c2b7d9a1e4c5586f70d21b9ce8a64f15e07d3".toList
  status := fun _ => .ok []
  refuses := fun _ _ => false

def takes (env : Env) (t : Tree) (q : Path) : Bool :=
  match snapshot env t [] with
  | .ok plan => (finalTree (applyPlan env t plan (.ok []))).at q = none
  | .error _ => false

/-- The dry run and the removal behind it: the file the tool reads is gone. -/
theorem escaped_literal_lost :
    ∃ plan, snapshot fixtureEnv fixture [] = .ok plan ∧ ¬SafeRun fixtureEnv fixture plan (.ok []) := by
  have taken : takes fixtureEnv fixture ["output".toList, "a.bin".toList] = true := by decide +kernel
  unfold takes at taken
  cases saved : snapshot fixtureEnv fixture [] with
  | error m =>
    rw [saved] at taken
    contradiction
  | ok plan =>
    rw [saved] at taken
    refine ⟨plan, rfl, ?_⟩
    intro safe
    have there : fixture.at ["output".toList, "a.bin".toList] = some (.file [] false) := by decide +kernel
    rcases safe.files _ [] false there with ⟨mode, still⟩ | ⟨_, expendable⟩
    · rw [of_decide_eq_true taken] at still
      contradiction
    · apply expendable.unnamed (fixtureEnv.decode fixtureTool)
      · exact ⟨_, rfl, "tools/load.py".toList, by decide, by decide +kernel, by decide +kernel⟩
      · refine ⟨"path = '".toList, "output\\\\a.bin".toList, "'\n".toList, by decide +kernel, ?_, ?_, ?_⟩
        · intro c last
          rw [← Option.some.inj last]
          decide
        · apply spelled_plain "output".toList (by decide)
          exact @Spelled.slash ['\\', '\\'] _ _ (by decide) (spelled_plain "a.bin".toList (by decide) Spelled.nil)
        · refine ⟨[], "'\n".toList, (List.nil_append _).symm, fun c none_ => absurd none_ List.not_mem_nil, ?_⟩
          intro c first
          rw [← Option.some.inj first]
          decide

end Sd700.Tools.CleanupSafety
