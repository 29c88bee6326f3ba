import PageLint.Proofs.RootSearch
import PageLint.Proofs.TableOverrides

/-!
# Effective settings

What a run works with is put together from three places. The command line counts more than the
configuration file, and this counts more than the defaults (`Configuration.Chosen`); each setting is
chosen on its own. The configuration file is the first of three names under which there is a file in
the root directory (`Settings.IsFileFor`). When the file does not describe a configuration, nothing of
it counts, and there are no effective settings: the defaults do not step in.

## Main results

* `Settings.read?_eq_some_iff`: what is read from a configuration file.
* `Configuration.ofSettings_follows`: settings that are merged follow the precedence.
* `Configuration.resolve_precedence`: **the effective settings of every run**.
-/

namespace PageLint

open Value

/-! ### Paths below the root -/

/-- Is a path `p`, as seen from `base`? A path that starts at the root of the file system stays what
it is; any other stands behind `base`, with a slash between the two if there is none yet. -/
def Path.Joined (base p joined : Path) : Prop :=
  if p.isAbsolute then joined = p
  else ∃ slash : Text, joined.text = base.text ++ (slash ++ p.text) ∧
    slash = if base.text = [] ∨ base.text.getLast? = some '/' then [] else ['/']

/-- Joining two paths makes the second as seen from the first. -/
theorem Path.joined_join (base p : Path) : Joined base p (base.join p) := by
  rw [Joined]
  by_cases habsolute : p.isAbsolute = true
  · rw [if_pos habsolute, join, if_pos (Or.inl habsolute)]
  · rw [if_neg habsolute]
    refine ⟨_, ?_, rfl⟩
    by_cases hempty : base.text = []
    · rw [join, if_pos (Or.inr hempty), if_pos (Or.inl hempty), hempty, List.nil_append,
        List.nil_append]
    · rw [join, if_neg (not_or.mpr ⟨habsolute, hempty⟩)]
      by_cases hslash : base.text.getLast? = some '/'
      · rw [if_pos hslash, if_pos (Or.inr hslash), List.nil_append]
      · rw [if_neg hslash, if_neg (not_or.mpr ⟨hempty, hslash⟩), List.singleton_append]

/-! ### The configuration file -/

namespace Settings

variable {tree : FileTree} {root path : Path} {format : ConfigFormat}

/-- Settings fall back on nothing where nothing else is set. -/
theorem orElse_empty (s : Settings) : s.orElse {} = s := by
  simp only [orElse, Option.or_none]

/-- Is there no configuration file in the directory? -/
def HasNoFile (tree : FileTree) (root : Path) : Prop :=
  ∀ e ∈ fileNames, tree.isFile (root.join (Path.ofString e.1)) = false

/-- Is a path that of the configuration file of a directory: the first of its names under which there
is a file? -/
def IsFileFor (tree : FileTree) (root path : Path) (format : ConfigFormat) : Prop :=
  ∃ before name after, fileNames = before ++ (name, format) :: after ∧
    path = root.join (Path.ofString name) ∧ tree.isFile path = true ∧
    ∀ e ∈ before, tree.isFile (root.join (Path.ofString e.1)) = false

/-- No file is chosen exactly if there is none. -/
theorem file?_eq_none_iff : file? tree root = none ↔ HasNoFile tree root := by
  simp only [file?, HasNoFile, List.find?_eq_none, List.mem_map, forall_exists_index, and_imp,
    forall_apply_eq_imp_iff₂, Bool.not_eq_true]

/-- The file that is chosen is the first one there is. -/
theorem file?_eq_some_iff : file? tree root = some (path, format) ↔
    IsFileFor tree root path format := by
  simp only [file?, IsFileFor, List.find?_map, Option.map_eq_some_iff, Function.comp_def,
    List.find?_eq_some_iff_append, Prod.mk.injEq, Bool.not_eq_true']
  constructor
  · rintro ⟨⟨name, format'⟩, ⟨hfile, before, after, hnames, hbefore⟩, rfl, rfl⟩
    exact ⟨before, name, after, hnames, rfl, hfile, hbefore⟩
  · rintro ⟨before, name, after, hnames, rfl, hfile, hbefore⟩
    exact ⟨(name, format), ⟨hfile, before, after, hnames, hbefore⟩, rfl, rfl⟩

/-- Can the fields of a configuration be read, those that are given? -/
structure Readable (fields : Fields) : Prop where
  /-- The directory of pages. -/
  pages : fields.IsReadable "pages" string?
  /-- The directory of data files. -/
  sources : fields.IsReadable "sources" string?
  /-- The form of output. -/
  output : fields.IsReadable "output" string?
  /-- Do warnings fail the run? -/
  strict : fields.IsReadable "strict" bool?
  /-- The rule tables. -/
  rules : fields.IsReadable "rules" RuleTables.ofValue?

/-- Does a file describe a configuration with these fields: are its bytes a text, is the text a
document of the format, is the document a record, and can its fields be read? -/
def Describes (tree : FileTree) (path : Path) (format : ConfigFormat) (fields : Fields) : Prop :=
  ∃ bytes text v, tree.read? path = some bytes ∧ Text.ofUtf8? bytes = some text ∧
    format.read? text = some v ∧
    v.record? ["pages", "sources", "output", "strict", "rules"] 4 = some fields ∧ Readable fields

/-- The fields of a described configuration can be read. -/
theorem Describes.readable {fields : Fields} (h : Describes tree path format fields) :
    Readable fields := by
  obtain ⟨-, -, -, -, -, -, -, hreadable⟩ := h
  exact hreadable

/-- A file describes one configuration at most. -/
theorem Describes.unique {fields fields' : Fields} (h : Describes tree path format fields)
    (h' : Describes tree path format fields') : fields = fields' := by
  obtain ⟨bytes, text, v, hread, htext, hv, hrecord, -⟩ := h
  obtain ⟨bytes', text', v', hread', htext', hv', hrecord', -⟩ := h'
  obtain rfl := Option.some.inj (hread.symm.trans hread')
  obtain rfl := Option.some.inj (htext.symm.trans htext')
  obtain rfl := Option.some.inj (hv.symm.trans hv')
  exact Option.some.inj (hrecord.symm.trans hrecord')

/-- Are these the settings and rule tables of the fields? -/
structure SaidBy (fields : Fields) (s : Settings) (rules : Option RuleTables) : Prop where
  /-- The directory of pages. -/
  pages : fields.optional "pages" string? = some s.pages
  /-- The directory of data files. -/
  sources : fields.optional "sources" string? = some s.sources
  /-- The form of output. -/
  output : fields.optional "output" string? = some s.output
  /-- Do warnings fail the run? -/
  strict : fields.optional "strict" bool? = some s.strict
  /-- The rule tables. -/
  rules : fields.optional "rules" RuleTables.ofValue? = some rules

/-- Fields can be read when they say some settings and rule tables. -/
theorem readable_iff {fields : Fields} : Readable fields ↔ ∃ s rules, SaidBy fields s rules := by
  constructor
  · rintro ⟨hpages, hsources, houtput, hstrict, hrules⟩
    rw [← Fields.exists_optional_eq_some_iff] at hpages hsources houtput hstrict hrules
    obtain ⟨pages, hpages⟩ := hpages
    obtain ⟨sources, hsources⟩ := hsources
    obtain ⟨output, houtput⟩ := houtput
    obtain ⟨strict, hstrict⟩ := hstrict
    obtain ⟨rules, hrules⟩ := hrules
    exact ⟨⟨pages, sources, output, strict⟩, rules, hpages, hsources, houtput, hstrict, hrules⟩
  · rintro ⟨s, rules, hsaid⟩
    exact ⟨Fields.exists_optional_eq_some_iff.mp ⟨_, hsaid.pages⟩,
      Fields.exists_optional_eq_some_iff.mp ⟨_, hsaid.sources⟩,
      Fields.exists_optional_eq_some_iff.mp ⟨_, hsaid.output⟩,
      Fields.exists_optional_eq_some_iff.mp ⟨_, hsaid.strict⟩,
      Fields.exists_optional_eq_some_iff.mp ⟨_, hsaid.rules⟩⟩

/-- A value is read as settings and rule tables when it is a record whose fields say them. -/
theorem ofValue?_eq_some_iff {v : Value} {s : Settings} {rules : Option RuleTables} :
    ofValue? v = some (s, rules) ↔ ∃ fields,
      v.record? ["pages", "sources", "output", "strict", "rules"] 4 = some fields ∧
        SaidBy fields s rules := by
  simp only [ofValue?, Option.bind_eq_bind, Option.bind_eq_some_iff, Option.pure_def,
    Option.some.injEq, Prod.mk.injEq]
  refine exists_congr fun fields => and_congr_right fun _ => ?_
  constructor
  · rintro ⟨_, hpages, _, hsources, _, houtput, _, hstrict, _, hrules, rfl, rfl⟩
    exact ⟨hpages, hsources, houtput, hstrict, hrules⟩
  · rintro ⟨hpages, hsources, houtput, hstrict, hrules⟩
    exact ⟨_, hpages, _, hsources, _, houtput, _, hstrict, _, hrules, rfl, rfl⟩

/-- **What is read from a configuration file.** -/
theorem read?_eq_some_iff {s : Settings} {rules : Option RuleTables} :
    read? tree path format = some (s, rules) ↔
      ∃ fields, Describes tree path format fields ∧ SaidBy fields s rules := by
  simp only [read?, Option.bind_eq_bind, Option.bind_eq_some_iff, ofValue?_eq_some_iff]
  constructor
  · rintro ⟨bytes, hread, text, htext, v, hv, fields, hrecord, hsaid⟩
    exact ⟨fields, ⟨bytes, text, v, hread, htext, hv, hrecord, readable_iff.mpr ⟨s, rules, hsaid⟩⟩,
      hsaid⟩
  · rintro ⟨fields, ⟨bytes, text, v, hread, htext, hv, hrecord, -⟩, hsaid⟩
    exact ⟨bytes, hread, text, htext, v, hv, fields, hrecord, hsaid⟩

/-- Nothing is read from a file that does not describe a configuration. -/
theorem read?_eq_none_iff :
    read? tree path format = none ↔ ∀ fields, ¬Describes tree path format fields := by
  constructor
  · intro hnone fields hdescribes
    obtain ⟨s, rules, hsaid⟩ := readable_iff.mp hdescribes.readable
    have hsome := read?_eq_some_iff.mpr ⟨fields, hdescribes, hsaid⟩
    rw [hnone] at hsome
    cases hsome
  · intro hnone
    refine Option.eq_none_iff_forall_ne_some.mpr fun ⟨s, rules⟩ hsome => ?_
    obtain ⟨fields, hdescribes, -⟩ := read?_eq_some_iff.mp hsome
    exact hnone fields hdescribes

end Settings

/-! ### Precedence -/

namespace Configuration

/-- Is a value the one that is chosen for a setting: what is given on the command line, else what the
configuration file sets, else the default? -/
def Chosen {α : Type} (given : Option α) (fields : Fields) (name : String) (read : Value → Option α)
    (default x : α) : Prop :=
  given = some x ∨ given = none ∧ (fields.Sets name read x ∨ fields.Leaves name ∧ x = default)

/-- What the command line and the file do not say is the default. -/
theorem chosen_getD {α : Type} {given said : Option α} {fields : Fields} {name : String}
    {read : Value → Option α} (h : fields.optional name read = some said) (default : α) :
    Chosen given fields name read default ((given.or said).getD default) := by
  cases given with
  | some x => exact Or.inl rfl
  | none =>
      refine Or.inr ⟨rfl, ?_⟩
      cases said with
      | none => exact Or.inr ⟨Fields.optional_eq_some_none_iff.mp h, rfl⟩
      | some x => exact Or.inl (Fields.optional_eq_some_some_iff.mp h)

/-- Does a configuration follow the precedence, for a root directory, what is given on the command
line, and the fields of the configuration file? Each setting is chosen on its own, and so is each rule
table. -/
structure Follows (c : Configuration) (root : Path) (given : Settings) (fields : Fields) : Prop where
  /-- The root directory. -/
  at_root : c.root = root
  /-- The directory of pages, as seen from the root directory. -/
  pages : ∃ p, Chosen given.pages fields "pages" string? "pages" p ∧
    Path.Joined root (Path.ofString p) c.pages
  /-- The directory of data files, as seen from the root directory. -/
  sources : ∃ p, Chosen given.sources fields "sources" string? "sources/CMP" p ∧
    Path.Joined root (Path.ofString p) c.sources
  /-- The form of output. -/
  output : Chosen given.output fields "output" string? "human" c.output
  /-- Do warnings fail the run? -/
  strict : Chosen given.strict fields "strict" bool? false c.strict
  /-- The rule tables: those that the file names, and the built-in ones for all others. -/
  rules : (∃ v, fields.find? "rules" = some v ∧ v.isNull = false ∧ RuleTables.Overrides v c.rules) ∨
    fields.Leaves "rules" ∧ c.rules = RuleTables.builtin

/-- **Settings that are merged follow the precedence.** -/
theorem ofSettings_follows {fields : Fields} {s : Settings} {rules : Option RuleTables}
    (h : Settings.SaidBy fields s rules) (root : Path) (file : Option Path) (given : Settings) :
    (ofSettings root file (given.orElse s) rules).Follows root given fields where
  at_root := rfl
  pages := ⟨_, chosen_getD h.pages defaultPages, Path.joined_join _ _⟩
  sources := ⟨_, chosen_getD h.sources defaultSources, Path.joined_join _ _⟩
  output := chosen_getD h.output defaultOutput
  strict := chosen_getD h.strict false
  rules := by
    have hrules := h.rules
    cases rules with
    | none => exact Or.inr ⟨Fields.optional_eq_some_none_iff.mp hrules, rfl⟩
    | some tables =>
        obtain ⟨v, hv, hnull, htables⟩ := Fields.optional_eq_some_some_iff.mp hrules
        exact Or.inl ⟨v, hv, hnull, RuleTables.ofValue?_eq_some_iff.mp htables⟩

/-- **The effective settings of every run.** There is a root directory for the starting point: the first
directory on the way up that holds a mark, or the starting point. If it has no configuration file, the
settings are those of the command line and the defaults. If it has one that describes a configuration,
they follow the precedence with the fields of the file. If it has one that does not, there is a
failure that names the file. -/
theorem resolve_precedence (tree : FileTree) (start : Path) (given : Settings) :
    ∃ root, tree.IsRootFor start root ∧
      ((Settings.HasNoFile tree root ∧ ∃ c, resolve tree start given = .ok c ∧ c.file = none ∧
          c.Follows root given []) ∨
        ∃ path format, Settings.IsFileFor tree root path format ∧
          (∀ fields, Settings.Describes tree path format fields →
            ∃ c, resolve tree start given = .ok c ∧ c.file = some path ∧
              c.Follows root given fields) ∧
          ((∀ fields, ¬Settings.Describes tree path format fields) →
            resolve tree start given = .error (.config path))) := by
  refine ⟨tree.root start, FileTree.isRootFor_iff.mpr rfl, ?_⟩
  rw [resolve]
  cases hfile : Settings.file? tree (tree.root start) with
  | none =>
      have hnothing : Settings.SaidBy [] {} none := ⟨rfl, rfl, rfl, rfl, rfl⟩
      have hfollows := ofSettings_follows hnothing (tree.root start) none given
      rw [Settings.orElse_empty] at hfollows
      exact Or.inl ⟨Settings.file?_eq_none_iff.mp hfile, _, rfl, rfl, hfollows⟩
  | some found =>
      obtain ⟨path, format⟩ := found
      refine Or.inr ⟨path, format, Settings.file?_eq_some_iff.mp hfile, ?_⟩
      cases hread : Settings.read? tree path format with
      | none =>
          have hnone := Settings.read?_eq_none_iff.mp hread
          simp only [hread]
          exact ⟨fun fields hdescribes => absurd hdescribes (hnone fields), fun _ => trivial⟩
      | some said =>
          obtain ⟨settings, rules⟩ := said
          obtain ⟨fields, hdescribes, hsaid⟩ := Settings.read?_eq_some_iff.mp hread
          simp only [hread]
          refine ⟨fun fields' hdescribes' => ?_, fun hnone => absurd hdescribes (hnone fields)⟩
          obtain rfl := hdescribes.unique hdescribes'
          exact ⟨_, rfl, rfl, ofSettings_follows hsaid (tree.root start) (some path) given⟩

end Configuration

end PageLint
