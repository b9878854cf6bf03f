import DriverTelemetry.Settings.Loading

/-!
# Layered settings

The value of a setting is what the sources give for it, laid over one another in their order. A
value that is no table replaces whatever earlier sources gave; a table is merged entry by entry into
what they left. Nothing else in the sources matters: the settings of one hook are read without a
look at those of the other, and a setting that no source gives has its default.
-/
namespace DriverTelemetry.Settings

structure Key where
  hook : String
  name : String
  deriving DecidableEq

namespace Key

def path (k : Key) : String := k.hook ++ "." ++ k.name

def all : List Key :=
  [⟨"log", "enabled"⟩, ⟨"log", "level"⟩, ⟨"log", "log_arguments"⟩, ⟨"log", "exclude"⟩,
    ⟨"trace", "enabled"⟩, ⟨"trace", "log_arguments"⟩, ⟨"trace", "exclude"⟩]

/-- What an entry of a source gives for a setting. A variable is named by the path of the setting;
in a file the setting stands in the section of its hook, where case does not matter. -/
def givenBy (k : Key) (entry : String × Setting) : List Setting :=
  if entry.1 = k.path then [entry.2]
  else if Text.lowercase entry.1 = k.hook then
    (entry.2.entries.filter fun e => Text.lowercase e.1 = k.name).map Prod.snd
  else []

end Key

def Layer.given (k : Key) (layer : Layer) : List Setting := layer.flatMap k.givenBy

namespace Setting

def isTable : Setting → Bool
  | .table _ _ => true
  | _ => false

/-- A value laid over what earlier ones left. -/
def atop (old : Option Setting) : Setting → Setting
  | .table _ entries => putAll (old.getD emptyTable) entries
  | value => value

def overlay (old : Option Setting) (values : List Setting) : Option Setting :=
  values.foldl (fun old value => some (atop old value)) old

end Setting

/-- What the sources together leave of a setting. -/
def effective (layers : List Layer) (k : Key) : Option Setting :=
  Setting.overlay none (layers.flatMap (Layer.given k))

def Key.read {α : Type} (k : Key) (value : Key → Option Setting)
    (read : Named → Except Complaint α) (default : α) : Except Complaint α :=
  match value k with
  | some v => read ⟨k.path, v⟩
  | none => .ok default

def LogSettings.ofValues (value : Key → Option Setting) : Except Complaint LogSettings := do
  let enabled ← Key.read ⟨"log", "enabled"⟩ value Named.toBool standard.enabled
  let level ← Key.read ⟨"log", "level"⟩ value Named.toLevel standard.level
  let logArguments ← Key.read ⟨"log", "log_arguments"⟩ value Named.toBool standard.logArguments
  let exclude ← Key.read ⟨"log", "exclude"⟩ value Named.toOperations standard.exclude
  return ⟨enabled, level, logArguments, exclude⟩

def TraceSettings.ofValues (value : Key → Option Setting) : Except Complaint TraceSettings := do
  let enabled ← Key.read ⟨"trace", "enabled"⟩ value Named.toBool standard.enabled
  let logArguments ← Key.read ⟨"trace", "log_arguments"⟩ value Named.toBool standard.logArguments
  let exclude ← Key.read ⟨"trace", "exclude"⟩ value Named.toOperations standard.exclude
  return ⟨enabled, logArguments, exclude⟩

def HookSettings.ofValues (value : Key → Option Setting) : Except Complaint HookSettings := do
  let log ← LogSettings.ofValues value
  let trace ← TraceSettings.ofValues value
  return ⟨log, trace⟩

theorem HookSettings.ofValues_congr {value value' : Key → Option Setting}
    (same : ∀ k ∈ Key.all, value k = value' k) : ofValues value = ofValues value' := by
  simp only [Key.all, List.forall_mem_cons] at same
  obtain ⟨s₁, s₂, s₃, s₄, s₅, s₆, s₇, -⟩ := same
  simp only [ofValues, LogSettings.ofValues, TraceSettings.ofValues, Key.read, s₁, s₂, s₃, s₄, s₅,
    s₆, s₇]

/-- Every setting is what is read from its own value, or its default. -/
structure HookSettings.Reads (s : HookSettings) (value : Key → Option Setting) : Prop where
  logEnabled : Key.read ⟨"log", "enabled"⟩ value Named.toBool true = .ok s.log.enabled
  level : Key.read ⟨"log", "level"⟩ value Named.toLevel .info = .ok s.log.level
  logLogArguments :
    Key.read ⟨"log", "log_arguments"⟩ value Named.toBool false = .ok s.log.logArguments
  logExclude : Key.read ⟨"log", "exclude"⟩ value Named.toOperations [] = .ok s.log.exclude
  traceEnabled : Key.read ⟨"trace", "enabled"⟩ value Named.toBool true = .ok s.trace.enabled
  traceLogArguments :
    Key.read ⟨"trace", "log_arguments"⟩ value Named.toBool false = .ok s.trace.logArguments
  traceExclude : Key.read ⟨"trace", "exclude"⟩ value Named.toOperations [] = .ok s.trace.exclude

theorem bind_eq_ok {α β : Type} {r : Except Complaint α} {f : α → Except Complaint β} {b : β} :
    r >>= f = .ok b ↔ ∃ a, r = .ok a ∧ f a = .ok b := by
  cases r with
  | error c => exact ⟨nofun, nofun⟩
  | ok a => exact ⟨fun h => ⟨a, rfl, h⟩, fun ⟨_, same, h⟩ => by cases same; exact h⟩

theorem HookSettings.ofValues_eq_ok {value : Key → Option Setting} {s : HookSettings} :
    ofValues value = .ok s ↔ s.Reads value := by
  simp only [ofValues, LogSettings.ofValues, TraceSettings.ofValues, bind_eq_ok]
  constructor
  · rintro ⟨_, ⟨_, h₁, _, h₂, _, h₃, _, h₄, ⟨⟩⟩, _, ⟨_, h₅, _, h₆, _, h₇, ⟨⟩⟩, ⟨⟩⟩
    exact ⟨h₁, h₂, h₃, h₄, h₅, h₆, h₇⟩
  · rintro ⟨h₁, h₂, h₃, h₄, h₅, h₆, h₇⟩
    exact ⟨_, ⟨_, h₁, _, h₂, _, h₃, _, h₄, rfl⟩, _, ⟨_, h₅, _, h₆, _, h₇, rfl⟩, rfl⟩

namespace Setting

theorem find?_bind (name other : String) (value : Setting) (entries : List (String × Setting)) :
    find? other (bind name value entries) =
      if name = other then some value else find? other entries := by
  induction entries with
  | nil => rfl
  | cons entry entries ih =>
    by_cases bound : entry.1 = name
    · subst bound
      simp only [bind, if_true, find?]
      split <;> rfl
    · simp only [bind, if_neg bound, find?, ih]
      by_cases found : entry.1 = other
      · simp [found, show name ≠ other from fun same => bound (found.trans same.symm)]
      · simp [found]

theorem get?_set (root : Setting) (name other : String) (value : Setting) :
    (root.set name value).get? other = if name = other then some value else root.get? other := by
  cases root with
  | table source entries => exact find?_bind name other value entries
  | scalar source s => rfl
  | list source items => rfl

theorem isTable_set (root : Setting) (name : String) (value : Setting) :
    (root.set name value).isTable = true := by
  cases root <;> rfl

theorem put_eq (name : String) (root value : Setting) :
    put name root value =
      root.set (Text.lowercase name) (atop (root.get? (Text.lowercase name)) value) := by
  cases value <;> rfl

theorem get?_put (name other : String) (root value : Setting) :
    (put name root value).get? other =
      if Text.lowercase name = other then some (atop (root.get? other) value)
      else root.get? other := by
  rw [put_eq, get?_set]
  split
  · next same => rw [same]
  · rfl

theorem isTable_putAll {root : Setting} (table : root.isTable = true)
    (entries : List (String × Setting)) : (putAll root entries).isTable = true := by
  induction entries generalizing root with
  | nil => exact table
  | cons entry entries ih =>
    refine ih ?_
    rw [put_eq]
    exact isTable_set ..

theorem overlay_append (old : Option Setting) (values values' : List Setting) :
    overlay old (values ++ values') = overlay (overlay old values) values' :=
  List.foldl_append ..

/-- Merging a table lays the entries of each name over what that name was bound to. -/
theorem get?_putAll (root : Setting) (entries : List (String × Setting)) (name : String) :
    (putAll root entries).get? name = overlay (root.get? name)
      ((entries.filter fun e => Text.lowercase e.1 = name).map Prod.snd) := by
  induction entries generalizing root with
  | nil => rfl
  | cons entry entries ih =>
    rw [show putAll root (entry :: entries) = putAll (put entry.1 root entry.2) entries from rfl,
      ih, get?_put]
    by_cases same : Text.lowercase entry.1 = name
    · simp [same, overlay]
    · simp [same]

def look (root : Setting) (k : Key) : Option Setting :=
  (root.get? k.hook).bind fun s => s.get? k.name

/-- Where there are sections of hooks, they are tables. -/
def Sectioned (root : Setting) : Prop :=
  ∀ k ∈ Key.all, ∀ v, root.get? k.hook = some v → v.isTable = true

end Setting

open Setting

theorem Fields.read_eq {α : Type} {root : Setting} {key : String} {source : Option String}
    {entries : List (String × Setting)} (found : root.get? key = some (.table source entries))
    (name : String) (read : Named → Except Complaint α) (default : α) :
    Fields.read ⟨fun name => (Setting.find? name entries).map fun v => ⟨key ++ "." ++ name, v⟩⟩ name
        read default =
      Key.read ⟨key, name⟩ root.look read default := by
  have looked : root.look ⟨key, name⟩ = Setting.find? name entries := by
    rw [look, found]
    rfl
  rw [Fields.read, Key.read, looked]
  cases bound : Setting.find? name entries <;> simp only [bound] <;> rfl

theorem Key.read_of_absent {α : Type} {root : Setting} {key : String}
    (absent : root.get? key = none) (name : String) (read : Named → Except Complaint α)
    (default : α) : Key.read ⟨key, name⟩ root.look read default = .ok default := by
  simp only [Key.read, look, absent, Option.bind_none]

theorem eq_table {v : Setting} (table : v.isTable = true) :
    ∃ source entries, v = .table source entries := by
  match v, table with
  | .table source entries, _ => exact ⟨source, entries, rfl⟩

theorem LogSettings.ofSection_eq {root : Setting} (sectioned : root.Sectioned) :
    (root.get? "log").elim (.ok standard) ofSection = ofValues root.look := by
  cases found : root.get? "log" with
  | none =>
    simp only [ofValues, Key.read_of_absent found]
    rfl
  | some v =>
    obtain ⟨source, entries, rfl⟩ := eq_table (sectioned ⟨"log", "enabled"⟩ (by decide) v found)
    simp only [ofValues, ← Fields.read_eq found]
    rfl

theorem TraceSettings.ofSection_eq {root : Setting} (sectioned : root.Sectioned) :
    (root.get? "trace").elim (.ok standard) ofSection = ofValues root.look := by
  cases found : root.get? "trace" with
  | none =>
    simp only [ofValues, Key.read_of_absent found]
    rfl
  | some v =>
    obtain ⟨source, entries, rfl⟩ := eq_table (sectioned ⟨"trace", "enabled"⟩ (by decide) v found)
    simp only [ofValues, ← Fields.read_eq found]
    rfl

theorem HookSettings.ofRoot_eq {root : Setting} (sectioned : root.Sectioned) :
    ofRoot root = ofValues root.look := by
  rw [ofValues, ← LogSettings.ofSection_eq sectioned, ← TraceSettings.ofSection_eq sectioned,
    ofRoot]
  cases root.get? "log" <;> cases root.get? "trace" <;> rfl

theorem Path.steps?_of_foreign {c : Char} (point : c ≠ '.') (bracket : c ≠ '[') (n : Nat)
    (p : Path) (cs : List Char) : steps? n p (c :: cs) = none := by
  cases n with
  | zero => rfl
  | succ n =>
    unfold steps?
    split <;> simp_all

theorem Path.ofText_plain {s : String} (point : '.' ∉ s.toList) (bracket : '[' ∉ s.toList) :
    ofText s = .name s := by
  simp only [ofText, takeName?]
  split
  · rfl
  · cases rest : s.toList.dropWhile isNameChar with
    | nil =>
      have whole : s.toList.takeWhile isNameChar = s.toList := by
        have parts := List.takeWhile_append_dropWhile (p := isNameChar) (l := s.toList)
        rwa [rest, List.append_nil] at parts
      simp [steps?, whole]
    | cons c cs =>
      have member : c ∈ s.toList :=
        (List.dropWhile_sublist isNameChar).subset (rest ▸ List.mem_cons_self)
      have foreign : c ≠ '.' ∧ c ≠ '[' :=
        ⟨fun same => point (same ▸ member), fun same => bracket (same ▸ member)⟩
      simp [steps?_of_foreign foreign.1 foreign.2]

theorem Path.get?_asTable (s : Setting) (name : String) : (asTable s).get? name = s.get? name := by
  cases s <;> rfl

namespace Key

theorem ofText_path : ∀ k ∈ all, Path.ofText k.path = .entry (.name k.hook) k.name := by
  decide +kernel

theorem lowercase_name : ∀ k ∈ all, Text.lowercase k.name = k.name := by decide +kernel

theorem path_eq_iff : ∀ k ∈ all, ∀ k' ∈ all, k'.path = k.path ↔ k' = k := by decide +kernel

theorem lowercase_path : ∀ k ∈ all, ∀ k' ∈ all, Text.lowercase k'.path ≠ k.hook := by
  decide +kernel

theorem point_mem_path (k : Key) : '.' ∈ k.path.toList := by simp [path]

end Key

/-- An entry of a file that is no path; where it is the section of a hook, it is a table. -/
def PlainEntry (entry : String × Setting) : Prop :=
  '.' ∉ entry.1.toList ∧ '[' ∉ entry.1.toList ∧
    ∀ k ∈ Key.all, Text.lowercase entry.1 = k.hook → entry.2.isTable = true

def SettingEntry (entry : String × Setting) : Prop := ∃ k ∈ Key.all, entry.1 = k.path

instance : DecidablePred PlainEntry := fun entry =>
  inferInstanceAs (Decidable ('.' ∉ entry.1.toList ∧ '[' ∉ entry.1.toList ∧
    ∀ k ∈ Key.all, Text.lowercase entry.1 = k.hook → entry.2.isTable = true))

instance : DecidablePred SettingEntry := fun entry =>
  inferInstanceAs (Decidable (∃ k ∈ Key.all, entry.1 = k.path))

/-- Laying one entry over a table of sections. -/
theorem look_put {root : Setting} {entry : String × Setting}
    (fits : PlainEntry entry ∨ SettingEntry entry) {k : Key} (known : k ∈ Key.all) :
    (Path.put entry.2 root (Path.ofText entry.1)).look k =
      overlay (root.look k) (k.givenBy entry) := by
  obtain ⟨name, value⟩ := entry
  rcases fits with ⟨point, bracket, tables⟩ | ⟨k', known', rfl⟩
  · have unlike : name ≠ k.path := fun same => point (same ▸ k.point_mem_path)
    rw [Path.ofText_plain point bracket, Path.put, Key.givenBy, if_neg unlike, look, get?_put]
    -- A whole section is merged into what is there, or the entry is none of the section.
    split
    · next hook =>
      obtain ⟨source, entries, rfl⟩ := eq_table (tables k known hook)
      have before : ((root.get? k.hook).getD emptyTable).get? k.name = root.look k := by
        rw [look]
        cases root.get? k.hook <;> rfl
      rw [Option.bind_some, atop, get?_putAll, before]
      rfl
    · rfl
  · -- A variable changes one setting in its section, and the section comes about if need be.
    rw [Key.ofText_path k' known', Path.put, Path.change, look, get?_set, Path.get?_asTable]
    by_cases hook : k'.hook = k.hook
    · have before : ((root.get? k'.hook).getD Path.null).get? k.name = root.look k := by
        rw [look, hook]
        cases root.get? k.hook <;> rfl
      rw [if_pos hook, Option.bind_some, get?_put, Path.get?_asTable, before,
        Key.lowercase_name k' known', Key.givenBy]
      by_cases same : k' = k
      · subst same
        simp [overlay]
      · have unlike : k'.path ≠ k.path := fun h => same ((Key.path_eq_iff k known k' known').mp h)
        have other : k'.name ≠ k.name := fun h => same (by cases k; cases k'; simp_all)
        rw [if_neg other, if_neg unlike, if_neg (Key.lowercase_path k known k' known')]
        rfl
    · have unlike : k'.path ≠ k.path := fun h =>
        hook (congrArg Key.hook ((Key.path_eq_iff k known k' known').mp h))
      rw [if_neg hook, Key.givenBy, if_neg unlike, if_neg (Key.lowercase_path k known k' known')]
      rfl

theorem sectioned_put {root : Setting} {entry : String × Setting}
    (fits : PlainEntry entry ∨ SettingEntry entry) (sectioned : root.Sectioned) :
    (Path.put entry.2 root (Path.ofText entry.1)).Sectioned := by
  obtain ⟨name, value⟩ := entry
  intro k known v found
  rcases fits with ⟨point, bracket, tables⟩ | ⟨k', known', rfl⟩
  · rw [Path.ofText_plain point bracket, Path.put, get?_put] at found
    split at found
    · next hook =>
      obtain ⟨source, entries, rfl⟩ := eq_table (tables k known hook)
      obtain rfl := Option.some.inj found
      refine isTable_putAll ?_ entries
      cases old : root.get? k.hook with
      | none => rfl
      | some s => exact sectioned k known s old
    · exact sectioned k known v found
  · rw [Key.ofText_path k' known', Path.put, Path.change, get?_set, Path.get?_asTable] at found
    split at found
    · obtain rfl := Option.some.inj found
      rw [put_eq]
      exact isTable_set ..
    · exact sectioned k known v found

theorem Layer.over_spec {layer : Layer}
    (fits : ∀ entry ∈ layer, PlainEntry entry ∨ SettingEntry entry) {root : Setting}
    (sectioned : root.Sectioned) :
    (layer.over root).Sectioned ∧
      ∀ k ∈ Key.all, (layer.over root).look k = overlay (root.look k) (layer.given k) := by
  induction layer generalizing root with
  | nil => exact ⟨sectioned, fun _ _ => rfl⟩
  | cons entry layer ih =>
    obtain ⟨first, rest⟩ := List.forall_mem_cons.mp fits
    obtain ⟨later, looks⟩ := ih rest (sectioned_put first sectioned)
    refine ⟨later, fun k known => (looks k known).trans ?_⟩
    rw [look_put first known, ← overlay_append]
    rfl

theorem foldl_over_spec {ls : List Layer}
    (fits : ∀ layer ∈ ls, ∀ entry ∈ layer, PlainEntry entry ∨ SettingEntry entry) {root : Setting}
    (sectioned : root.Sectioned) :
    (ls.foldl Layer.over root).Sectioned ∧
      ∀ k ∈ Key.all, (ls.foldl Layer.over root).look k =
        overlay (root.look k) (ls.flatMap (Layer.given k)) := by
  induction ls generalizing root with
  | nil => exact ⟨sectioned, fun _ _ => rfl⟩
  | cons layer ls ih =>
    obtain ⟨first, rest⟩ := List.forall_mem_cons.mp fits
    obtain ⟨shaped, looks⟩ := Layer.over_spec first sectioned
    obtain ⟨later, looks'⟩ := ih rest shaped
    refine ⟨later, fun k known => (looks' k known).trans ?_⟩
    rw [looks k known, ← overlay_append]
    rfl

theorem HookSettings.ofRoot_layers {ls : List Layer}
    (fits : ∀ layer ∈ ls, ∀ entry ∈ layer, PlainEntry entry ∨ SettingEntry entry) :
    ofRoot (ls.foldl Layer.over emptyTable) = ofValues (effective ls) := by
  have sectioned : emptyTable.Sectioned := nofun
  obtain ⟨shaped, looks⟩ := foldl_over_spec fits sectioned
  rw [ofRoot_eq shaped]
  exact ofValues_congr looks

theorem effective_of_absent {ls : List Layer} {k : Key}
    (absent : ∀ layer ∈ ls, layer.given k = []) : effective ls k = none := by
  rw [effective, List.flatMap_eq_nil_iff.mpr absent]
  rfl

/-- The last source that gives a setting has the last word. -/
theorem effective_of_last {earlier later : List Layer} {layer : Layer} {k : Key} {v : Setting}
    (gives : layer.given k = [v]) (silent : ∀ l ∈ later, l.given k = []) :
    effective (earlier ++ layer :: later) k = some (atop (effective earlier k) v) := by
  rw [effective, List.flatMap_append, List.flatMap_cons, gives,
    List.flatMap_eq_nil_iff.mpr silent, overlay_append]
  rfl

theorem Setting.atop_of_plain {v : Setting} (plain : v.isTable = false) (old : Option Setting) :
    atop old v = v := by
  cases v with
  | table source entries => cases plain
  | _ => rfl

theorem Sources.layers_eq (s : Sources) (file : Option String) : s.layers file = do
    let standard ← s.optional defaultFile
    let given ← file.elim (.ok []) s.required
    let named ← (s.lookup? "SQLHOOKS_CONFIG").elim (.ok []) s.required
    return [standard, given, named, Layer.ofEnvironment s.environment] := by
  unfold layers
  cases file <;> cases s.lookup? "SQLHOOKS_CONFIG" <;> rfl

/-- Every setting is read from what its sources leave of it, laid over one another in their order:
the default file, the file that the caller names, the file that the environment names, and the
environment. The last source that gives it has the last word: a value that is no table stands
whatever the sources before it gave, and a table is merged into what they left. A setting that no
source gives has its default. -/
theorem HookSettings.load_layered (s : Sources) (file : Option String)
    {standard given named : Layer} (standard_found : s.optional defaultFile = .ok standard)
    (given_found : file.elim (.ok []) s.required = .ok given)
    (named_found : (s.lookup? "SQLHOOKS_CONFIG").elim (.ok []) s.required = .ok named)
    (plain : ∀ layer ∈ [standard, given, named], ∀ entry ∈ layer, PlainEntry entry)
    (settings_only : ∀ entry ∈ Layer.ofEnvironment s.environment, SettingEntry entry) :
    let ls := [standard, given, named, Layer.ofEnvironment s.environment]
    s.load file = ofValues (effective ls) ∧
    (∀ settings : HookSettings, s.load file = .ok settings ↔ settings.Reads (effective ls)) ∧
    ∀ k : Key,
      ((∀ layer ∈ ls, layer.given k = []) → effective ls k = none) ∧
      ∀ (earlier later : List Layer) (layer : Layer) (v : Setting),
        ls = earlier ++ layer :: later → layer.given k = [v] → (∀ l ∈ later, l.given k = []) →
        effective ls k = some (atop (effective earlier k) v) ∧
        (v.isTable = false → effective ls k = some v) := by
  intro ls
  have found : s.layers file = .ok ls := by
    rw [Sources.layers_eq, standard_found, given_found, named_found]
    rfl
  have fits : ∀ layer ∈ ls, ∀ entry ∈ layer, PlainEntry entry ∨ SettingEntry entry := by
    intro layer member entry inside
    rcases List.mem_append.mp (show layer ∈ [standard, given, named] ++ [_] from member) with
      of_file | of_environment
    · exact .inl (plain layer of_file entry inside)
    · obtain rfl := List.mem_singleton.mp of_environment
      exact .inr (settings_only entry inside)
  have loaded : s.load file = ofValues (effective ls) := by
    rw [Sources.load, found, ← ofRoot_layers fits]
    rfl
  refine ⟨loaded, fun settings => by rw [loaded, ofValues_eq_ok], fun k => ?_⟩
  refine ⟨effective_of_absent, ?_⟩
  intro earlier later layer v split gives silent
  have last : effective (earlier ++ layer :: later) k = some (atop (effective earlier k) v) :=
    effective_of_last gives silent
  rw [← split] at last
  exact ⟨last, fun plain => by rw [last, atop_of_plain plain]⟩

private theorem exists_ok {α : Type} {r : Except Complaint α} {p : α → Bool}
    (h : r.toOption.any p = true) : ∃ a, r = .ok a ∧ p a = true := by
  cases r with
  | error c => cases h
  | ok a => exact ⟨a, rfl, h⟩

/-- A file with an unknown level under one with a known level, and a variable. -/
def Sources.overriding : Sources :=
  Surroundings.sources
    ⟨[("sqlhooks.yaml", "log:\n  level: 5\n"), ("/tmp/explicit.yaml", "log:\n  level: warn\n")],
      [("SQLHOOKS__TRACE__ENABLED", "no")]⟩

open Sources in
theorem HookSettings.load_layered_overridden :
    ∃ (standard given : Layer) (settings : HookSettings),
      overriding.optional defaultFile = .ok standard ∧
      overriding.required "/tmp/explicit.yaml" = .ok given ∧
      settings.Reads (effective
        [standard, given, [], Layer.ofEnvironment overriding.environment]) ∧
      settings.log.level = .warn ∧ settings.trace.enabled = false := by
  obtain ⟨standard, standard_found, plain⟩ :=
    exists_ok (r := overriding.optional defaultFile)
      (p := fun l => ∀ entry ∈ l, PlainEntry entry) (by decide +kernel)
  obtain ⟨given, given_found, plain'⟩ :=
    exists_ok (r := overriding.required "/tmp/explicit.yaml")
      (p := fun l => ∀ entry ∈ l, PlainEntry entry) (by decide +kernel)
  obtain ⟨settings, loaded, read⟩ :=
    exists_ok (r := overriding.load (some "/tmp/explicit.yaml"))
      (p := fun settings => settings.log.level = .warn ∧ settings.trace.enabled = false)
      (by decide +kernel)
  have given_named : (some "/tmp/explicit.yaml").elim (.ok []) overriding.required = .ok given := by
    rw [Option.elim_some, given_found]
  have unnamed : (overriding.lookup? "SQLHOOKS_CONFIG").elim (.ok []) overriding.required =
      .ok ([] : Layer) := by
    rw [show overriding.lookup? "SQLHOOKS_CONFIG" = none by decide +kernel, Option.elim_none]
  have files : ∀ layer ∈ [standard, given, []], ∀ entry ∈ layer, PlainEntry entry := by
    simp only [List.forall_mem_cons]
    exact ⟨of_decide_eq_true plain, of_decide_eq_true plain', nofun, nofun⟩
  obtain ⟨-, reads, -⟩ := load_layered overriding (some "/tmp/explicit.yaml") standard_found
    given_named unnamed files (by decide +kernel)
  exact ⟨standard, given, settings, standard_found, given_found, (reads settings).mp loaded,
    of_decide_eq_true read⟩

/-- A level that is a table is merged into an earlier one, and the two together are no level. -/
theorem HookSettings.load_merged_level :
    let earlier := ("sqlhooks.yaml", "log: \x7blevel: \x7bwarn: 1\x7d\x7d\n")
    let later := ("explicit.yaml", "log: \x7blevel: \x7berror: 1\x7d\x7d\n")
    (load ⟨[later], []⟩ (some "explicit.yaml")).toOption =
        some ⟨⟨true, .error, false, []⟩, ⟨true, false, []⟩⟩ ∧
      (load ⟨[earlier, later], []⟩ (some "explicit.yaml")).toOption = none := by
  decide +kernel

end DriverTelemetry.Settings
