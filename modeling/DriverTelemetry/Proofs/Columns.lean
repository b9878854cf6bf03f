import DriverTelemetry.Embedded.Driver

/-!
# What columns read as

A type that fits a column reads just what the column holds, so the order in which the types are
tried never decides what a column reads as, only whether one of them fits. One does for every kind
but single-precision numbers. Such a column fails its row and with it the whole answer, under the
number of the first of them; every other row reads as its contents, column by column. Parameters are
never bound as that kind, so what was bound always reads back, a moment in time as its text.
-/
namespace DriverTelemetry.Embedded

namespace Wire

def content : Wire → Value
  | .null _ => .null
  | .bool b => .bool b
  | .smallint i => .int i
  | .integer i => .int i
  | .bigint i => .int i
  | .real x => .float x
  | .double x => .float x
  | .text s => .text s
  | .blob bs => .bytes bs

def isReal : Wire → Bool
  | .real _ => true
  | _ => false

theorem eq_content_of_read? {w : Wire} {reading : Reading} {v : Value}
    (h : w.read? reading = some v) : v = w.content := by
  cases w <;> cases reading <;> simp_all [read?, content]

/-- Every kind of column has a type that fits, except single-precision numbers. -/
theorem exists_read?_iff (w : Wire) :
    (∃ reading ∈ readings, (w.read? reading).isSome) ↔ w.isReal = false := by
  cases w <;> simp [readings, read?, isReal]

theorem kindName_of_isReal {w : Wire} (h : w.isReal = true) : w.kindName = "REAL" := by
  cases w <;> simp_all [isReal, kindName]

theorem toValue_eq (index : Nat) (w : Wire) :
    w.toValue index =
      if w.isReal then .error (mismatch index "REAL") else .ok w.content := by
  unfold toValue
  cases found : readings.findSome? w.read? with
  | some v =>
    obtain ⟨reading, tried, reads⟩ := List.exists_of_findSome?_eq_some found
    have unreal := (exists_read?_iff w).mp ⟨reading, tried, by rw [reads]; rfl⟩
    simp [unreal, eq_content_of_read? reads]
  | none =>
    have real : w.isReal = true := by
      rw [← Bool.not_eq_false, ← exists_read?_iff]
      rintro ⟨reading, tried, fits⟩
      rw [List.findSome?_eq_none_iff.mp found reading tried] at fits
      cases fits
    simp [real, kindName_of_isReal real]

theorem decodeFrom_eq (index : Nat) (ws : List Wire) :
    decodeFrom index ws =
      match ws.findIdx? isReal with
      | none => .ok (ws.map content)
      | some i => .error (mismatch (index + i) "REAL") := by
  induction ws generalizing index with
  | nil => rfl
  | cons w ws ih =>
    rw [decodeFrom, toValue_eq, List.findIdx?_cons]
    cases w.isReal with
    | true => rfl
    | false =>
      simp only [Bool.false_eq_true, if_false, ih (index + 1)]
      cases ws.findIdx? isReal with
      | none => rfl
      | some i =>
        change Except.error (mismatch (index + 1 + i) "REAL") =
          Except.error (mismatch (index + (i + 1)) "REAL")
        rw [Nat.add_right_comm, Nat.add_assoc]

theorem decode_eq (ws : List Wire) :
    decode ws =
      match ws.findIdx? isReal with
      | none => .ok (ws.map content)
      | some i => .error (mismatch i "REAL") := by
  rw [decode, decodeFrom_eq]
  simp only [Nat.zero_add]

/-- The first single-precision column, in the order of the rows, fails the whole answer. -/
theorem decodeRows_eq (rows : List (List Wire)) :
    Cached.decodeRows rows =
      match rows.findSome? (List.findIdx? isReal) with
      | none => .ok (rows.map (List.map content))
      | some i => .error (mismatch i "REAL") := by
  unfold Cached.decodeRows
  induction rows with
  | nil => rfl
  | cons row rows ih =>
    rw [List.mapM_cons, ih, decode_eq, List.findSome?_cons]
    cases row.findIdx? isReal with
    | some i => rfl
    | none =>
      cases rows.findSome? (List.findIdx? isReal) with
      | none => rfl
      | some i => rfl

/-- A row reads as its contents, one value for each column in the order of the columns, exactly when
it has no single-precision number among them; the first of those fails it, and an answer fails with
the first of its rows that fails. -/
theorem decode_columns (ws : List Wire) (rows : List (List Wire)) :
    (decode ws = .ok (ws.map content) ↔ ∀ w ∈ ws, w.isReal = false) ∧
    (decode ws =
      match ws.findIdx? isReal with
      | none => .ok (ws.map content)
      | some i => .error (mismatch i "REAL")) ∧
    Cached.decodeRows rows =
      match rows.findSome? (List.findIdx? isReal) with
      | none => .ok (rows.map (List.map content))
      | some i => .error (mismatch i "REAL") := by
  refine ⟨?_, decode_eq ws, decodeRows_eq rows⟩
  rw [decode_eq, ← List.findIdx?_eq_none_iff]
  cases ws.findIdx? isReal with
  | none => exact ⟨fun _ => rfl, fun _ => rfl⟩
  | some i => exact ⟨nofun, nofun⟩

/-- One and a half, as a number of single precision, has no value that it reads as. -/
theorem decode_real_ne_content :
    decode [.text "a", .real ⟨0x3ff8000000000000⟩] ≠
      .ok ([.text "a", .real ⟨0x3ff8000000000000⟩].map content) := by
  rw [decode_eq]
  nofun

theorem isReal_ofValue (v : Value) : (ofValue v).isReal = false := by
  cases v <;> rfl

/-- What a value comes back as once it has been bound. -/
def returned : Value → Value
  | .timestamp t => .text (String.ofList t.render)
  | v => v

theorem content_ofValue (v : Value) : (ofValue v).content = returned v := by
  cases v <;> rfl

/-- Whatever values are bound, reading the parameters back succeeds and gives the same values in the
same order, floats by their bits, except that each moment in time has become its text. -/
theorem decode_bind (vs : List Value) : decode (bind vs) = .ok (vs.map returned) := by
  have unreal : (bind vs).findIdx? isReal = none := by
    rw [List.findIdx?_eq_none_iff]
    intro w bound
    obtain ⟨v, -, rfl⟩ := List.mem_map.mp bound
    exact isReal_ofValue v
  rw [decode_eq, unreal]
  simp [bind, Function.comp_def, content_ofValue]

end Wire
end DriverTelemetry.Embedded
