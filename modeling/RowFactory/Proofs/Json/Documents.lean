import RowFactory.Proofs.Json.Texts

/-! # Documents that are written and read

A document of texts, flags, lists and objects is read back from its written form: the same tree, in which every
list and object now ends with its bracket. The written form bounds the number of values on the way down, so that
the reader's fuel is never used up.
-/

namespace RowFactory.Json

/-- A document without numbers and faults, whose keys are texts. -/
inductive Document.Plain : Document → Prop where
  | null : Plain .null
  | bool (value : Bool) : Plain (.bool value)
  | string (text : String) : Plain (.string text)
  | array {items : List Document} (ending : Ending) (plain : ∀ d ∈ items, Plain d) : Plain (.array items ending)
  | object {members : List (Document × Document)} (ending : Ending) (keys : ∀ m ∈ members, ∃ name, m.1 = .string name)
      (plain : ∀ m ∈ members, Plain m.2) : Plain (.object members ending)

mutual

/-- The document with a bracket at the end of every list and object. -/
def Document.closed : Document → Document
  | .array items _ => .array (closedItems items) .closed
  | .object members _ => .object (closedMembers members) .closed
  | d => d

def closedItems : List Document → List Document
  | [] => []
  | d :: rest => d.closed :: closedItems rest

def closedMembers : List (Document × Document) → List (Document × Document)
  | [] => []
  | (key, value) :: rest => (key, value.closed) :: closedMembers rest

end

theorem Document.stop?_string (text : String) : (Document.string text).stop? = none := rfl

theorem Document.Plain.stop?_closed {d : Document} (h : d.Plain) : d.closed.stop? = none := by
  cases h <;> rfl

theorem skipGap_cons_of_isGap {c : Char} (h : isGap c) (text : List Char) : skipGap (c :: text) = skipGap text :=
  List.dropWhile_cons_of_pos h

theorem skipGap_cons_of_not {c : Char} (h : isGap c = false) (text : List Char) : skipGap (c :: text) = c :: text :=
  List.dropWhile_cons_of_neg (by simp [h])

theorem skipGap_newLine (depth : Nat) (text : List Char) : skipGap (newLine depth ++ text) = skipGap text := by
  have hSpaces (n : Nat) : skipGap (List.replicate n ' ' ++ text) = skipGap text := by
    induction n with
    | zero => rfl
    | succ n ih => exact (skipGap_cons_of_isGap rfl _).trans ih
  exact (skipGap_cons_of_isGap rfl _).trans (hSpaces (2 * depth))

theorem readValue_gap {text other : List Char} (h : skipGap text = skipGap other) (fuel : Nat) :
    readValue fuel text = readValue fuel other := by
  cases fuel with
  | zero => rw [readValue, readValue]
  | succ fuel => rw [readValue, readValue, h]

theorem Document.Plain.exists_head {d : Document} (h : d.Plain) (depth : Nat) :
    ∃ c rest, writeValue depth d = c :: rest ∧ isGap c = false ∧ c ≠ ']' := by
  cases h with
  | null => exact ⟨'n', _, by rw [writeValue], rfl, by decide⟩
  | bool value =>
    cases value with
    | true => exact ⟨'t', _, by rw [writeValue], rfl, by decide⟩
    | false => exact ⟨'f', _, by rw [writeValue], rfl, by decide⟩
  | string text => exact ⟨'"', _, by rw [writeValue, writeText]; rfl, rfl, by decide⟩
  | @array items ending plain =>
    cases items with
    | nil => exact ⟨'[', _, by rw [writeValue], rfl, by decide⟩
    | cons d rest => exact ⟨'[', _, by rw [writeValue]; rfl, rfl, by decide⟩
  | @object members ending keys plain =>
    cases members with
    | nil => exact ⟨'\x7b', _, by rw [writeValue], rfl, by decide⟩
    | cons m rest => exact ⟨'\x7b', _, by rw [writeValue]; rfl, rfl, by decide⟩

theorem Document.Plain.skipGap_writeValue {d : Document} (h : d.Plain) (depth : Nat) (text : List Char) :
    skipGap (writeValue depth d ++ text) = writeValue depth d ++ text := by
  obtain ⟨c, rest, hHead, hGap, -⟩ := h.exists_head depth
  rw [hHead, List.cons_append, skipGap_cons_of_not hGap]

/-- With enough fuel for its length, the written form is read as the closed document, whatever follows. -/
def Document.Recovers (d : Document) : Prop :=
  ∀ depth fuel rest, (writeValue depth d).length ≤ fuel → readValue fuel (writeValue depth d ++ rest) = (d.closed, rest)

/-- A written value is not empty, so that there is fuel for its first step. -/
theorem Document.Plain.recovers_of_step {d : Document} (h : d.Plain)
    (hStep : ∀ depth fuel rest, (writeValue depth d).length ≤ fuel + 1 →
      readValue (fuel + 1) (writeValue depth d ++ rest) = (d.closed, rest)) : d.Recovers := by
  intro depth fuel rest hFuel
  obtain ⟨c, tail, hHead, -⟩ := h.exists_head depth
  cases fuel with
  | zero =>
    rw [hHead] at hFuel
    cases hFuel
  | succ fuel => exact hStep depth fuel rest hFuel

theorem Document.Recovers.readValue_space {d : Document} (h : d.Recovers) {depth fuel : Nat}
    (hFuel : (writeValue depth d).length ≤ fuel) (rest : List Char) :
    readValue fuel (' ' :: (writeValue depth d ++ rest)) = (d.closed, rest) :=
  (readValue_gap (skipGap_cons_of_isGap rfl _) fuel).trans (h depth fuel rest hFuel)

theorem length_newLine (depth : Nat) : (newLine depth).length = 2 * depth + 1 := by
  rw [newLine, List.length_cons, List.length_replicate]

theorem readItems_writeItems {depth : Nat} (outer : Nat) {items : List Document} (hPlain : ∀ d ∈ items, d.Plain)
    (hRecovers : ∀ d ∈ items, d.Recovers) {d : Document} (hd : d.Plain) (hr : d.Recovers) {fuel : Nat}
    (hFuel : (writeValue depth d).length + (writeItems depth items).length < fuel) (rest : List Char) :
    readItems fuel (writeValue depth d ++ (writeItems depth items ++ (newLine outer ++ ']' :: rest))) =
      (d.closed :: closedItems items, .closed, rest) := by
  -- By induction on the values after `d`: `d` is read, and what follows is the case of the next value.
  induction items generalizing d fuel with
  | nil =>
    obtain ⟨fuel, rfl⟩ : ∃ n, fuel = n + 1 := ⟨fuel - 1, by omega⟩
    have hItem := hr depth fuel (writeItems depth [] ++ (newLine outer ++ ']' :: rest)) (by omega)
    have hEnd : skipGap (writeItems depth [] ++ (newLine outer ++ ']' :: rest)) = ']' :: rest :=
      (skipGap_newLine outer _).trans (skipGap_cons_of_not rfl rest)
    rw [readItems, hItem]
    simp only [hd.stop?_closed, hEnd]
    rfl
  | cons next items ih =>
    obtain ⟨fuel, rfl⟩ : ∃ n, fuel = n + 1 := ⟨fuel - 1, by omega⟩
    rw [writeItems] at hFuel ⊢
    simp only [List.length_append, List.length_cons] at hFuel
    have hNext := hPlain next List.mem_cons_self
    have hRest := ih (fun d hd => hPlain d (List.mem_cons_of_mem next hd))
      (fun d hd => hRecovers d (List.mem_cons_of_mem next hd)) hNext (hRecovers next List.mem_cons_self)
      (show _ < fuel by omega)
    have hItem := hr depth fuel (',' :: (newLine depth ++ (writeValue depth next ++ (writeItems depth items ++
      (newLine outer ++ ']' :: rest))))) (by omega)
    have hNextGap := (skipGap_newLine depth _).trans
      (hNext.skipGap_writeValue depth (writeItems depth items ++ (newLine outer ++ ']' :: rest)))
    obtain ⟨c, tail, hHead, -, hNotEnd⟩ := hNext.exists_head depth
    simp only [List.cons_append, List.append_assoc]
    rw [readItems, hItem]
    simp only [hd.stop?_closed, skipGap_cons_of_not (show isGap ',' = false from rfl), hNextGap]
    -- A value does not begin with the bracket that would end the list after a comma.
    rw [hHead, List.cons_append] at hRest ⊢
    split
    · contradiction
    · rename_i h
      exact absurd (List.cons.inj h).1 hNotEnd
    · rw [hRest]
      rfl

theorem recovers_array {items : List Document} (ending : Ending) (hPlain : ∀ d ∈ items, d.Plain)
    (hRecovers : ∀ d ∈ items, d.Recovers) : (Document.array items ending).Recovers := by
  refine (Document.Plain.array ending hPlain).recovers_of_step fun depth fuel rest hFuel => ?_
  cases items with
  | nil =>
    rw [writeValue, readValue]
    rfl
  | cons d items =>
    rw [writeValue] at hFuel ⊢
    simp only [List.length_append, List.length_cons, List.length_nil, length_newLine] at hFuel
    have hd := hPlain d List.mem_cons_self
    have hItems := readItems_writeItems depth (fun d hd => hPlain d (List.mem_cons_of_mem _ hd))
      (fun d hd => hRecovers d (List.mem_cons_of_mem _ hd)) hd (hRecovers d List.mem_cons_self)
      (show (writeValue (depth + 1) d).length + (writeItems (depth + 1) items).length < fuel by omega) rest
    have hGap := (skipGap_newLine (depth + 1) _).trans
      (hd.skipGap_writeValue (depth + 1) (writeItems (depth + 1) items ++ (newLine depth ++ ']' :: rest)))
    obtain ⟨c, tail, hHead, -, hNotEnd⟩ := hd.exists_head (depth + 1)
    simp only [List.cons_append, List.append_assoc, List.nil_append]
    rw [readValue]
    simp only [skipGap_cons_of_not (show isGap '[' = false from rfl), hGap]
    rw [hHead, List.cons_append] at hItems ⊢
    split
    · rename_i h
      exact absurd (List.cons.inj h).1 hNotEnd
    · rw [hItems]
      rfl

theorem readMembers_writeMembers {depth : Nat} (outer : Nat) {members : List (Document × Document)}
    (hKeys : ∀ m ∈ members, ∃ name, m.1 = .string name) (hPlain : ∀ m ∈ members, m.2.Plain)
    (hRecovers : ∀ m ∈ members, m.2.Recovers) {value : Document} (hv : value.Plain) (hr : value.Recovers) {fuel : Nat}
    (hFuel : (writeValue depth value).length + (writeMembers depth members).length < fuel) (name : String)
    (rest : List Char) :
    readMembers fuel (name.toList.flatMap writeChar ++ '"' :: ':' :: ' ' :: (writeValue depth value ++
      (writeMembers depth members ++ (newLine outer ++ '\x7d' :: rest)))) =
      ((.string name, value.closed) :: closedMembers members, .closed, rest) := by
  induction members generalizing value fuel name with
  | nil =>
    obtain ⟨fuel, rfl⟩ : ∃ n, fuel = n + 1 := ⟨fuel - 1, by omega⟩
    have hEnd : skipGap (writeMembers depth [] ++ (newLine outer ++ '\x7d' :: rest)) = '\x7d' :: rest :=
      (skipGap_newLine outer _).trans (skipGap_cons_of_not rfl rest)
    rw [readMembers, readText_writeText]
    simp only [Document.stop?_string, skipGap_cons_of_not (show isGap ':' = false from rfl)]
    rw [hr.readValue_space (by omega)]
    simp only [hv.stop?_closed, hEnd]
    rfl
  | cons next members ih =>
    obtain ⟨fuel, rfl⟩ : ∃ n, fuel = n + 1 := ⟨fuel - 1, by omega⟩
    obtain ⟨key, nextValue⟩ := next
    obtain ⟨nextName, rfl⟩ : ∃ text, key = .string text := hKeys _ List.mem_cons_self
    rw [writeMembers, writeValue, writeText] at hFuel ⊢
    simp only [List.length_append, List.length_cons] at hFuel
    have hNext : nextValue.Plain := hPlain _ List.mem_cons_self
    have hNextRecovers : nextValue.Recovers := hRecovers _ List.mem_cons_self
    have hRest := ih (fun m hm => hKeys m (List.mem_cons_of_mem _ hm))
      (fun m hm => hPlain m (List.mem_cons_of_mem _ hm)) (fun m hm => hRecovers m (List.mem_cons_of_mem _ hm)) hNext
      hNextRecovers (show _ < fuel by omega) nextName
    simp only [List.cons_append, List.append_assoc, List.nil_append]
    rw [readMembers, readText_writeText]
    simp only [Document.stop?_string, skipGap_cons_of_not (show isGap ':' = false from rfl)]
    rw [hr.readValue_space (by omega)]
    simp only [hv.stop?_closed, skipGap_cons_of_not (show isGap ',' = false from rfl), skipGap_newLine,
      skipGap_cons_of_not (show isGap '"' = false from rfl)]
    rw [hRest]
    rfl

theorem recovers_object {members : List (Document × Document)} (ending : Ending)
    (hKeys : ∀ m ∈ members, ∃ name, m.1 = .string name) (hPlain : ∀ m ∈ members, m.2.Plain)
    (hRecovers : ∀ m ∈ members, m.2.Recovers) : (Document.object members ending).Recovers := by
  refine (Document.Plain.object ending hKeys hPlain).recovers_of_step fun depth fuel rest hFuel => ?_
  cases members with
  | nil =>
    rw [writeValue, readValue]
    rfl
  | cons m members =>
    obtain ⟨key, value⟩ := m
    obtain ⟨name, rfl⟩ : ∃ text, key = .string text := hKeys _ List.mem_cons_self
    rw [writeValue] at hFuel ⊢
    simp only [List.length_append, List.length_cons, List.length_nil, length_newLine] at hFuel
    have hMembers := readMembers_writeMembers depth (fun m hm => hKeys m (List.mem_cons_of_mem _ hm))
      (fun m hm => hPlain m (List.mem_cons_of_mem _ hm)) (fun m hm => hRecovers m (List.mem_cons_of_mem _ hm))
      (hPlain _ List.mem_cons_self) (hRecovers _ List.mem_cons_self)
      (show (writeValue (depth + 1) value).length + (writeMembers (depth + 1) members).length < fuel by omega) name rest
    rw [readValue]
    simp only [writeValue, writeText, List.cons_append, List.append_assoc, List.nil_append,
      skipGap_cons_of_not (show isGap '\x7b' = false from rfl), skipGap_newLine,
      skipGap_cons_of_not (show isGap '"' = false from rfl)]
    rw [hMembers]
    rfl

theorem recovers_null : Document.null.Recovers := by
  refine Document.Plain.null.recovers_of_step fun depth fuel rest _ => ?_
  rw [writeValue, readValue]
  rfl

theorem recovers_bool (value : Bool) : (Document.bool value).Recovers := by
  refine (Document.Plain.bool value).recovers_of_step fun depth fuel rest _ => ?_
  cases value with
  | true =>
    rw [writeValue, readValue]
    rfl
  | false =>
    rw [writeValue, readValue]
    rfl

theorem recovers_string (text : String) : (Document.string text).Recovers := by
  refine (Document.Plain.string text).recovers_of_step fun depth fuel rest _ => ?_
  rw [writeValue, writeText, List.cons_append, List.cons_append, List.append_assoc, readValue,
    skipGap_cons_of_not (show isGap '"' = false from rfl)]
  exact readText_writeText text rest

theorem Document.Plain.recovers {d : Document} (h : d.Plain) : d.Recovers := by
  induction h with
  | null => exact recovers_null
  | bool value => exact recovers_bool value
  | string text => exact recovers_string text
  | array ending plain ih => exact recovers_array ending plain ih
  | object ending keys plain ih => exact recovers_object ending keys plain ih

/-- A document is read back from its text, with nothing left over. -/
theorem read_write {d : Document} (h : d.Plain) : read (write d) = (d.closed, false) := by
  have hText : (write d).toList = writeValue 0 d := String.toList_ofList
  have hFuel : (writeValue 0 d).length ≤ 2 * (writeValue 0 d).length + 2 := by omega
  have hRead := h.recovers 0 _ [] hFuel
  rw [List.append_nil] at hRead
  rw [read, hText, hRead]
  rfl

end RowFactory.Json
