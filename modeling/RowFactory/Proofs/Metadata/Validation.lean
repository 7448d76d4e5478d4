import RowFactory.Metadata.Validation

/-! # What validation decides

Metadata are accepted if no entry breaks a rule, and otherwise the first entry that does is reported. The rules are
stated of an entry and the entries before it, in the order in which they are listed.
-/

namespace RowFactory.Metadata

theorem fieldViolation?_eq_none_iff {before fields : List String} :
    fieldViolation? before fields = none ↔
      primaryKeyColumn ∉ fields ∧ fields.Nodup ∧ ∀ field ∈ fields, field ∉ before := by
  induction fields generalizing before with
  | nil => simp [fieldViolation?]
  | cons field rest ih =>
    rw [fieldViolation?]
    by_cases hKey : field = primaryKeyColumn
    · simp [hKey]
    · by_cases hBefore : field ∈ before
      · simp [hKey, hBefore]
      · rw [if_neg hKey, if_neg hBefore, ih]
        simp only [List.mem_cons, not_or, List.nodup_cons, forall_eq_or_imp]
        constructor
        · rintro ⟨hId, hNodup, hNew⟩
          exact ⟨⟨Ne.symm hKey, hId⟩, ⟨fun h => (hNew field h).1 rfl, hNodup⟩, hBefore,
            fun other h => (hNew other h).2⟩
        · rintro ⟨⟨_, hId⟩, ⟨hField, hNodup⟩, _, hNew⟩
          exact ⟨hId, hNodup, fun other h => ⟨fun hSame => hField (hSame ▸ h), hNew other h⟩⟩

theorem Table.validate_eq_ok_iff {t : Table} : t.validate = .ok () ↔ t.violation? = none := by
  rw [validate]
  cases t.violation? <;> simp

theorem keyViolation?_eq_none_iff {fields before : List String} {keys : List ForeignKey} :
    keyViolation? fields before keys = none ↔
      (∀ key ∈ keys, key.field ∈ fields) ∧ (keys.map (·.field)).Nodup ∧ ∀ key ∈ keys, key.field ∉ before := by
  induction keys generalizing before with
  | nil => simp [keyViolation?]
  | cons key rest ih =>
    rw [keyViolation?]
    by_cases hField : key.field ∈ fields
    · by_cases hBefore : key.field ∈ before
      · simp [hField, hBefore]
      · rw [if_neg (not_not_intro hField), if_neg hBefore, ih]
        simp only [List.mem_cons, not_or, List.map_cons, List.nodup_cons, List.mem_map, not_exists, not_and,
          forall_eq_or_imp]
        constructor
        · rintro ⟨hKnown, hNodup, hNew⟩
          exact ⟨⟨hField, hKnown⟩, ⟨fun other h => (hNew other h).1, hNodup⟩, hBefore,
            fun other h => (hNew other h).2⟩
        · rintro ⟨⟨_, hKnown⟩, ⟨hKey, hNodup⟩, _, hNew⟩
          exact ⟨hKnown, hNodup, fun other h => ⟨hKey other h, hNew other h⟩⟩
    · simp [hField]

theorem Table.violation?_eq_none_iff {t : Table} :
    t.violation? = none ↔ fieldViolation? [] t.fields = none ∧ keyViolation? t.fields [] t.foreignKeys = none := by
  rw [violation?]
  cases fieldViolation? [] t.fields <;> simp

theorem Table.nodup_fields {t : Table} (h : t.validate = .ok ()) : t.fields.Nodup :=
  (fieldViolation?_eq_none_iff.mp (violation?_eq_none_iff.mp (validate_eq_ok_iff.mp h)).1).2.1

theorem Table.mem_fields_of_key {t : Table} (h : t.validate = .ok ()) {key : ForeignKey}
    (hKey : key ∈ t.foreignKeys) : key.field ∈ t.fields :=
  (keyViolation?_eq_none_iff.mp (violation?_eq_none_iff.mp (validate_eq_ok_iff.mp h)).2).1 key hKey

theorem Table.nodup_keys {t : Table} (h : t.validate = .ok ()) : (t.foreignKeys.map (·.field)).Nodup :=
  (keyViolation?_eq_none_iff.mp (violation?_eq_none_iff.mp (validate_eq_ok_iff.mp h)).2).2.1

inductive Entry where
  | field (name : String)
  | key (key : ForeignKey)

/-- A rule that an entry breaks after the entries before it. A field that is the key of the row is not reported as
repeated, nor is a reference of an unknown field. -/
inductive Breaks (fields : List String) (before : List Entry) : Entry → Violation → Prop
  | keyIsField : Breaks fields before (.field primaryKeyColumn) .keyIsField
  | repeatedField {name : String} :
    name ≠ primaryKeyColumn → .field name ∈ before → Breaks fields before (.field name) (.repeatedField name)
  | unknownField {key : ForeignKey} : key.field ∉ fields → Breaks fields before (.key key) (.unknownField key)
  | repeatedKey {key other : ForeignKey} :
    key.field ∈ fields → .key other ∈ before → other.field = key.field →
      Breaks fields before (.key key) (.repeatedKey key.field)

/-- The first of the entries that breaks a rule breaks this one, with others already listed. -/
def BreaksFirst (fields : List String) (listed entries : List Entry) (v : Violation) : Prop :=
  ∃ before entry after, entries = before ++ entry :: after ∧ Breaks fields (listed ++ before) entry v ∧
    ∀ earlier other between, before = earlier ++ other :: between → ∀ w, ¬ Breaks fields (listed ++ earlier) other w

def Table.entries (t : Table) : List Entry :=
  t.required.map .field ++ t.optional.map .field ++ t.foreignKeys.map .key

section Entries

variable {fields before : List String} {listed rest : List Entry} {entry : Entry} {v : Violation}

theorem not_breaksFirst_nil : ¬ BreaksFirst fields listed [] v := by
  rintro ⟨_, _, _, hEntries, _⟩
  exact List.append_ne_nil_of_right_ne_nil _ (List.cons_ne_nil _ _) hEntries.symm

theorem breaksFirst_cons :
    BreaksFirst fields listed (entry :: rest) v ↔
      Breaks fields listed entry v ∨
        (∀ w, ¬ Breaks fields listed entry w) ∧ BreaksFirst fields (listed ++ [entry]) rest v := by
  constructor
  · rintro ⟨before, found, after, hEntries, hBreaks, hFirst⟩
    -- The entry that breaks a rule is the first of all, or the split is one further on in the rest.
    cases before with
    | nil =>
      obtain ⟨rfl, rfl⟩ := List.cons.inj hEntries
      rw [List.append_nil] at hBreaks
      exact .inl hBreaks
    | cons head before =>
      obtain ⟨rfl, rfl⟩ := List.cons.inj hEntries
      refine .inr ⟨?_, before, found, after, rfl, ?_, ?_⟩
      · have hHead := hFirst [] entry before rfl
        rwa [List.append_nil] at hHead
      · rwa [List.append_assoc]
      · rintro earlier other between rfl
        rw [List.append_assoc]
        exact hFirst (entry :: earlier) other between rfl
  · rintro (hBreaks | ⟨hHead, before, found, after, rfl, hBreaks, hFirst⟩)
    · refine ⟨[], entry, rest, rfl, ?_, ?_⟩
      · rwa [List.append_nil]
      · intro earlier other between hNil
        exact absurd hNil.symm (List.append_ne_nil_of_right_ne_nil _ (List.cons_ne_nil _ _))
    · refine ⟨entry :: before, found, after, rfl, ?_, ?_⟩
      · rwa [List.append_assoc] at hBreaks
      · intro earlier other between hBefore
        cases earlier with
        | nil =>
          obtain ⟨rfl, -⟩ := List.cons.inj hBefore
          rwa [List.append_nil]
        | cons head earlier =>
          obtain ⟨rfl, rfl⟩ := List.cons.inj hBefore
          have hEarlier := hFirst earlier other between rfl
          rwa [List.append_assoc] at hEarlier

/-! ### The checks of one entry and of all -/

theorem breaks_field_iff {name : String} (hListed : ∀ other, .field other ∈ listed ↔ other ∈ before) :
    Breaks fields listed (.field name) v ↔
      name = primaryKeyColumn ∧ v = .keyIsField ∨
        name ≠ primaryKeyColumn ∧ name ∈ before ∧ v = .repeatedField name := by
  constructor
  · rintro (_ | ⟨hName, hMem⟩)
    · exact .inl ⟨rfl, rfl⟩
    · exact .inr ⟨hName, (hListed name).mp hMem, rfl⟩
  · rintro (⟨rfl, rfl⟩ | ⟨hName, hMem, rfl⟩)
    · exact .keyIsField
    · exact .repeatedField hName ((hListed name).mpr hMem)

theorem breaks_key_iff {key : ForeignKey}
    (hListed : ∀ name, (∃ other, .key other ∈ listed ∧ other.field = name) ↔ name ∈ before) :
    Breaks fields listed (.key key) v ↔
      key.field ∉ fields ∧ v = .unknownField key ∨
        key.field ∈ fields ∧ key.field ∈ before ∧ v = .repeatedKey key.field := by
  constructor
  · rintro (_ | _ | hField | ⟨hField, hMem, hSame⟩)
    · exact .inl ⟨hField, rfl⟩
    · exact .inr ⟨hField, (hListed key.field).mp ⟨_, hMem, hSame⟩, rfl⟩
  · rintro (⟨hField, rfl⟩ | ⟨hField, hMem, rfl⟩)
    · exact .unknownField hField
    · obtain ⟨other, hOther, hSame⟩ := (hListed key.field).mpr hMem
      exact .repeatedKey hField hOther hSame

theorem breaksFirst_fields {names : List String} (hListed : ∀ other, .field other ∈ listed ↔ other ∈ before) :
    BreaksFirst fields listed (names.map .field ++ rest) v ↔
      fieldViolation? before names = some v ∨
        fieldViolation? before names = none ∧ BreaksFirst fields (listed ++ names.map .field) rest v := by
  induction names generalizing listed before with
  | nil => simp [fieldViolation?]
  | cons name names ih =>
    -- The names before an entry are those that the check has put aside.
    have hNext : ∀ other, .field other ∈ listed ++ [.field name] ↔ other ∈ name :: before := by
      intro other
      rw [List.mem_append, hListed, List.mem_singleton, Entry.field.injEq, List.mem_cons, or_comm]
    rw [List.map_cons, List.cons_append, breaksFirst_cons, ih hNext, List.append_assoc, fieldViolation?]
    simp only [breaks_field_iff hListed]
    by_cases hKey : name = primaryKeyColumn
    · simp [hKey, eq_comm]
    · by_cases hBefore : name ∈ before
      · simp [hKey, hBefore, eq_comm]
      · simp [hKey, hBefore]

theorem breaksFirst_keys {keys : List ForeignKey}
    (hListed : ∀ name, (∃ other, .key other ∈ listed ∧ other.field = name) ↔ name ∈ before) :
    BreaksFirst fields listed (keys.map .key) v ↔ keyViolation? fields before keys = some v := by
  induction keys generalizing listed before with
  | nil => simp [keyViolation?, not_breaksFirst_nil]
  | cons key keys ih =>
    have hNext : ∀ name, (∃ other, .key other ∈ listed ++ [.key key] ∧ other.field = name) ↔
        name ∈ key.field :: before := by
      intro name
      simp only [List.mem_append, or_and_right, exists_or, hListed, List.mem_cons]
      simp [or_comm, eq_comm]
    rw [List.map_cons, breaksFirst_cons, ih hNext, keyViolation?]
    simp only [breaks_key_iff hListed]
    by_cases hField : key.field ∈ fields
    · by_cases hBefore : key.field ∈ before
      · simp [hField, hBefore, eq_comm]
      · simp [hField, hBefore]
    · simp [hField, eq_comm]

theorem Table.breaksFirst_iff {t : Table} : BreaksFirst t.fields [] t.entries v ↔ t.violation? = some v := by
  have hFields : ∀ other, Entry.field other ∈ [] ↔ other ∈ [] := by simp
  have hKeys : ∀ name,
      (∃ other, Entry.key other ∈ [] ++ t.fields.map .field ∧ other.field = name) ↔ name ∈ [] := by simp
  rw [entries, ← List.map_append, ← fields, breaksFirst_fields hFields, breaksFirst_keys hKeys, violation?]
  cases fieldViolation? [] t.fields <;> simp

end Entries

/-- Metadata are accepted exactly if no field is the key of the row or repeated, and every reference is of a field of
its own. Otherwise the error tells the first entry that breaks a rule. -/
theorem Table.validate_reports_first (t : Table) :
    (t.validate = .ok () ↔
      primaryKeyColumn ∉ t.fields ∧ t.fields.Nodup ∧ (∀ key ∈ t.foreignKeys, key.field ∈ t.fields) ∧
        (t.foreignKeys.map (·.field)).Nodup) ∧
    ∀ e, t.validate = .error e ↔
      ∃ v, BreaksFirst t.fields [] t.entries v ∧ e = .invalidMetadata t.name v.message := by
  constructor
  · rw [validate_eq_ok_iff, violation?_eq_none_iff, fieldViolation?_eq_none_iff, keyViolation?_eq_none_iff]
    simp [and_assoc]
  · intro e
    simp only [breaksFirst_iff]
    rw [validate]
    cases t.violation? <;> simp [eq_comm]

end RowFactory.Metadata
