/-!
# Tables of names

Each name is bound once, in the order of binding, and stays bound to what it was first bound to.
-/
namespace DriverTelemetry

structure NameTable (α : Type) where
  entries : List (String × α)
  distinct : (entries.map Prod.fst).Nodup

namespace NameTable

variable {α : Type}

def empty : NameTable α := ⟨[], by simp⟩

def names (t : NameTable α) : List String := t.entries.map Prod.fst

def size (t : NameTable α) : Nat := t.entries.length

def contains (t : NameTable α) (name : String) : Bool := t.names.contains name

def get? (t : NameTable α) (name : String) : Option α :=
  (t.entries.find? fun entry => entry.1 = name).map Prod.snd

/-- Binding a bound name changes nothing. -/
def insert (t : NameTable α) (name : String) (a : α) : NameTable α :=
  if h : t.contains name then t
  else
    ⟨t.entries ++ [(name, a)], by
      have absent : name ∉ t.entries.map Prod.fst := by
        simpa [contains, names] using h
      simp only [List.map_append, List.map_cons, List.map_nil]
      exact List.nodup_append.mpr ⟨t.distinct, by simp, by
        intro x hx y hy
        simp only [List.mem_singleton] at hy
        subst hy
        exact fun e => absent (e ▸ hx)⟩⟩

def map {β : Type} (f : String → α → β) (t : NameTable α) : NameTable β :=
  ⟨t.entries.map fun entry => (entry.1, f entry.1 entry.2), by
    simpa [List.map_map, Function.comp_def] using t.distinct⟩

/-- What the name is bound to, after binding an unbound one to what `create` makes. Nothing is made
for a bound name, and nothing is bound when making fails; what making does to the state stays. -/
def getOrInsert {ε σ : Type} (t : NameTable α) (name : String) (create : σ → Except ε α × σ)
    (s : σ) : Except ε α × NameTable α × σ :=
  match t.get? name with
  | some a => (.ok a, t, s)
  | none =>
    match create s with
    | (.ok a, s) => (.ok a, t.insert name a, s)
    | (.error err, s) => (.error err, t, s)

/-- The names in ascending order of their characters. -/
def sorted (t : NameTable α) : List String := t.names.mergeSort fun x y => x ≤ y

theorem contains_iff_mem {t : NameTable α} {name : String} :
    t.contains name = true ↔ name ∈ t.names := by
  simp [contains]

theorem get?_isSome (t : NameTable α) (name : String) :
    (t.get? name).isSome = t.contains name := by
  rw [Bool.eq_iff_iff, contains_iff_mem]
  simp [get?, names]

@[simp] theorem get?_empty (name : String) : (empty : NameTable α).get? name = none := rfl

theorem insert_of_contains {t : NameTable α} {name : String} (h : t.contains name = true) (a : α) :
    t.insert name a = t := by
  simp [insert, h]

theorem entries_insert {t : NameTable α} {name : String} (h : t.contains name = false) (a : α) :
    (t.insert name a).entries = t.entries ++ [(name, a)] := by
  simp [insert, h]

theorem names_insert {t : NameTable α} {name : String} (h : t.contains name = false) (a : α) :
    (t.insert name a).names = t.names ++ [name] := by
  simp [names, entries_insert h]

theorem get?_eq_none {t : NameTable α} {name : String} (h : t.contains name = false) :
    t.get? name = none := by
  rw [← Option.isNone_iff_eq_none, ← Option.not_isSome, get?_isSome, h]
  rfl

theorem get?_insert_self {t : NameTable α} {name : String} (h : t.contains name = false) (a : α) :
    (t.insert name a).get? name = some a := by
  have absent := get?_eq_none h
  simp only [get?, Option.map_eq_none_iff] at absent
  simp [get?, entries_insert h, absent]

theorem mem_entries_of_get? {t : NameTable α} {name : String} {a : α} (h : t.get? name = some a) :
    (name, a) ∈ t.entries := by
  obtain ⟨entry, found, rfl⟩ := Option.map_eq_some_iff.mp h
  have named : entry.1 = name := by simpa using List.find?_some found
  subst named
  exact List.mem_of_find?_eq_some found

theorem get?_map {β : Type} (f : String → α → β) (t : NameTable α) (name : String) :
    (t.map f).get? name = (t.get? name).map (f name) := by
  simp only [get?, map, List.find?_map, Option.map_map]
  cases h : t.entries.find? fun entry => entry.1 = name with
  | none => simp [Function.comp_def, h]
  | some entry =>
    have named : entry.1 = name := by simpa using List.find?_some h
    simp [Function.comp_def, h, named]

theorem get?_insert_of_ne (t : NameTable α) {name other : String} (h : other ≠ name) (a : α) :
    (t.insert name a).get? other = t.get? other := by
  cases bound : t.contains name with
  | true => rw [insert_of_contains bound]
  | false => simp [get?, entries_insert bound, Ne.symm h]

theorem mem_names_insert {t : NameTable α} {name other : String} {a : α} :
    name ∈ (t.insert other a).names ↔ name ∈ t.names ∨ name = other := by
  cases bound : t.contains other with
  | true =>
    rw [insert_of_contains bound]
    exact ⟨.inl, fun h => h.elim id fun same => same ▸ contains_iff_mem.mp bound⟩
  | false => simp [names_insert bound]

theorem contains_insert {t : NameTable α} {name other : String} {a : α} :
    (t.insert other a).contains name = true ↔ t.contains name = true ∨ name = other := by
  rw [contains_iff_mem, contains_iff_mem, mem_names_insert]

section

variable {t : NameTable α}

theorem contains_of_get? {name : String} {a : α} (h : t.get? name = some a) :
    t.contains name = true := by
  rw [← get?_isSome, h]
  rfl

theorem exists_get? {name : String} (h : t.contains name = true) : ∃ a, t.get? name = some a := by
  rw [← get?_isSome] at h
  exact Option.isSome_iff_exists.mp h

theorem get?_insert_of_get? {name : String} {a : α} (h : t.get? name = some a) (other : String)
    (b : α) : (t.insert other b).get? name = some a := by
  by_cases same : name = other
  · subst same
    rw [insert_of_contains (contains_of_get? h), h]
  · rw [get?_insert_of_ne t same, h]

theorem get?_of_get?_insert {name other : String} {a b : α}
    (h : (t.insert other b).get? name = some a) :
    t.get? name = some a ∨ (name = other ∧ t.contains other = false ∧ a = b) := by
  cases bound : t.contains other with
  | true =>
    rw [insert_of_contains bound] at h
    exact .inl h
  | false =>
    by_cases same : name = other
    · subst same
      rw [get?_insert_self bound] at h
      exact .inr ⟨rfl, rfl, (Option.some.inj h).symm⟩
    · rw [get?_insert_of_ne t same] at h
      exact .inl h

end

section

variable {ε σ : Type} {t : NameTable α} {name : String}

theorem getOrInsert_of_get? {a : α} (bound : t.get? name = some a)
    (create : σ → Except ε α × σ) (s : σ) : t.getOrInsert name create s = (.ok a, t, s) := by
  simp only [getOrInsert, bound]

theorem getOrInsert_of_ok (unbound : t.contains name = false) {create : σ → Except ε α × σ}
    {s s' : σ} {a : α} (made : create s = (.ok a, s')) :
    t.getOrInsert name create s = (.ok a, t.insert name a, s') := by
  simp only [getOrInsert, get?_eq_none unbound, made]

theorem getOrInsert_of_error (unbound : t.contains name = false) {create : σ → Except ε α × σ}
    {s s' : σ} {err : ε} (failed : create s = (.error err, s')) :
    t.getOrInsert name create s = (.error err, t, s') := by
  simp only [getOrInsert, get?_eq_none unbound, failed]

end

end NameTable
end DriverTelemetry
