import AddressPool.Proofs.Json.Scalars

/-!
# Lists, objects and kept values that are read back

A list is read back if each of its elements is (`reads_expectList`).  The fields of an object
are read one after the other, each of them in the state that the ones before it have led to,
and `ReadsFields` says that all of them are read; then the object is read back
(`reads_expectStructure`).  A comma stands in front of each element or field but the first
one, so the first is split off and the others are gone through by induction.

A string or a natural number that is kept for later is the value that was written
(`reads_value_string`, `reads_value_number`).

Brackets count the depth down, so these statements hold at every depth that leaves room for
the bracket that is opened.
-/

namespace AddressPool.Json

set_option autoImplicit false

/-- Behind the first of several things that are written, a comma stands in front of each. -/
theorem intercalate_cons (first : List Char) (others : List (List Char)) :
    [','].intercalate (first :: others) = first ++ others.flatMap (',' :: ·) := by
  induction others generalizing first with
  | nil => simp [List.intercalate]
  | cons second others ih =>
    have later : [','].intercalate (first :: second :: others) =
        first ++ ',' :: [','].intercalate (second :: others) := rfl
    rw [later, ih, List.flatMap_cons, List.cons_append]

/-- A bracket is opened as long as there is depth. -/
theorem openBracket_ok (depth : Nat) (bracket : Char) (rest : List Char) :
    openBracket (depth + 2) (bracket :: rest) = .ok (depth + 1, rest) := by
  rw [openBracket, if_neg (by omega)]
  rfl

/-! ## Lists -/

/-- A list has a first element if it does not end at once. -/
theorem anotherElement_first {char : Char} (solid : isSpace char = false) (inside : char ≠ ']')
    (rest : List Char) : anotherElement true (char :: rest) = .ok (true, char :: rest) := by
  rw [anotherElement, Reader.bind_ok (Reader.peek_cons solid rest)]
  simp only
  rfl

/-- A comma stands in front of another element. -/
theorem anotherElement_comma {char : Char} (solid : isSpace char = false) (inside : char ≠ ']')
    (rest : List Char) : anotherElement false (',' :: char :: rest) = .ok (true, char :: rest) := by
  have comma : peek (',' :: char :: rest) = .ok (some ',', ',' :: char :: rest) := rfl
  have passed : advance (',' :: char :: rest) = .ok ((), char :: rest) := rfl
  rw [anotherElement, Reader.bind_ok comma]
  change (advance >>= fun _ => peek >>= _) _ = _
  rw [Reader.bind_ok passed, Reader.bind_ok (Reader.peek_cons solid rest)]
  simp only
  rfl

section Lists

variable {α : Type} {element : Reader α} {write : α → List Char}

/-- An element is read, and then the others. -/
theorem elementsFrom_cons {fuel : Nat} {first : Bool} {text written rest tail : List Char}
    {value : α} {values : List α} (another : anotherElement first text = .ok (true, written))
    (read : element written = .ok (value, rest))
    (later : elementsFrom element fuel false rest = .ok (values, tail)) :
    elementsFrom element (fuel + 1) first text = .ok (value :: values, tail) := by
  rw [elementsFrom, Reader.bind_ok another]
  change (element >>= fun value => elementsFrom element fuel false >>= fun values =>
    pure (value :: values)) written = _
  rw [Reader.bind_ok read, Reader.bind_ok later]
  rfl

/-- What stands behind an element of a list can follow a value. -/
theorem follows_elements (write : α → List Char) (values : List α) (rest : List Char) :
    Follows (values.flatMap (fun value => ',' :: write value) ++ ']' :: rest) := by
  cases values with
  | nil => exact .inr (.inl rfl)
  | cons value values => exact .inl rfl

variable (reads : ∀ value, Reads element (write value) value)
include reads

/-- The elements behind the first one come back, and the list ends at its closing bracket. -/
theorem elementsFrom_written (values : List α) (rest : List Char) {fuel : Nat}
    (enough : values.length < fuel) :
    elementsFrom element fuel false
        (values.flatMap (fun value => ',' :: write value) ++ ']' :: rest) =
      .ok (values, ']' :: rest) := by
  induction values generalizing fuel with
  | nil =>
    obtain ⟨fuel, rfl⟩ := Nat.exists_eq_add_one.mpr enough
    rfl
  | cons value values ih =>
    obtain ⟨fuel, rfl⟩ := Nat.exists_eq_add_one.mpr (Nat.zero_lt_of_lt enough)
    obtain ⟨char, others, shape, solid, inside⟩ := (reads value).solid
    have read := (reads value).back _ (follows_elements write values rest)
    have later := ih (Nat.lt_of_succ_lt_succ enough)
    rw [List.flatMap_cons, List.cons_append, List.cons_append, List.append_assoc]
    refine elementsFrom_cons ?_ read later
    rw [shape]
    exact anotherElement_comma solid inside _

/-- All elements of a list come back. -/
theorem elements_written (values : List α) (rest : List Char) :
    elements element ([','].intercalate (values.map write) ++ ']' :: rest) =
      .ok (values, ']' :: rest) := by
  change elementsFrom element (_ + 1) true _ = _
  cases values with
  | nil => rfl
  | cons value values =>
    obtain ⟨char, others, shape, solid, inside⟩ := (reads value).solid
    have read := (reads value).back _ (follows_elements write values rest)
    have length := length_le_flatMap (fun value => List.cons_ne_nil ',' (write value)) values
    rw [List.map_cons, intercalate_cons, List.flatMap_map, List.append_assoc]
    refine elementsFrom_cons ?_ read (elementsFrom_written reads values rest ?_)
    · rw [shape]
      exact anotherElement_first solid inside _
    · -- Each of the elements takes a comma at least, and the first one takes a character.
      rw [shape, List.length_append, List.length_append, List.length_cons]
      omega

end Lists

/-- **A list is read back** where one is expected. -/
theorem reads_expectList {α : Type} {element : Nat → Reader α} {write : α → List Char} {depth : Nat}
    (reads : ∀ value, Reads (element (depth + 1)) (write value) value) (values : List α) :
    Reads (expectList (depth + 2) element) (writeList (values.map write)) values := by
  refine ⟨⟨'[', _, rfl, rfl, by decide⟩, fun rest _ => ?_⟩
  have inside := elements_written reads values rest
  have shape : writeList (values.map write) ++ rest =
      '[' :: ([','].intercalate (values.map write) ++ ']' :: rest) := by
    rw [writeList, List.cons_append, List.cons_append, List.append_assoc, List.singleton_append]
  generalize [','].intercalate (values.map write) ++ ']' :: rest = behind at inside shape
  have first : peek ('[' :: behind) = .ok (some '[', '[' :: behind) := rfl
  have closed : closeList (']' :: rest) = .ok ((), rest) := rfl
  rw [shape, expectList, Reader.bind_ok first]
  change (openBracket (depth + 2) >>= fun inner => elements (element inner) >>= fun values =>
    closeList >>= fun _ => pure values) _ = _
  rw [Reader.bind_ok (openBracket_ok depth '[' behind), Reader.bind_ok inside,
    Reader.bind_ok closed]
  rfl

/-! ## Objects -/

/-- A field is read, in the state that the fields before it have led to, and leads to the next
state. -/
def ReadsField {σ : Type} (member : σ → String → Reader σ) (state : σ) (name : String)
    (written : List Char) (next : σ) : Prop :=
  ∀ rest, Follows rest → member state name (':' :: (written ++ rest)) = .ok (next, rest)

/-- Fields are read one after the other. -/
inductive ReadsFields {σ : Type} (member : σ → String → Reader σ) :
    σ → List (String × List Char) → σ → Prop
  | nil (state : σ) : ReadsFields member state [] state
  | cons {state next final : σ} {name : String} {written : List Char}
      {fields : List (String × List Char)} (field : ReadsField member state name written next)
      (later : ReadsFields member next fields final) :
      ReadsFields member state ((name, written) :: fields) final

namespace ReadsFields

variable {σ : Type} {member : σ → String → Reader σ} {state next final : σ}

theorem append {front back : List (String × List Char)}
    (first : ReadsFields member state front next) (later : ReadsFields member next back final) :
    ReadsFields member state (front ++ back) final := by
  induction first with
  | nil state => exact later
  | cons field _ ih => exact .cons field (ih later)

end ReadsFields

/-- A field that has not been read before is read as its value is. -/
theorem onceField_written {α : Type} {field : Reader α} {written : List Char} {value : α}
    (reads : Reads field written value) (name : String) {rest : List Char}
    (follows : Follows rest) :
    onceField name none field (':' :: (written ++ rest)) = .ok (some value, rest) := by
  have passed : colon (':' :: (written ++ rest)) = .ok ((), written ++ rest) := rfl
  change (colon >>= fun _ => field >>= fun value => pure (some value)) _ = _
  rw [Reader.bind_ok passed, Reader.bind_ok (reads.back rest follows)]
  rfl

/-- How a field of an object is written. -/
def writeField (field : String × List Char) : List Char :=
  writeString field.1 ++ ':' :: field.2

theorem nextKey_first (name : String) (rest : List Char) :
    nextKey true (writeString name ++ rest) = .ok (some name, rest) := by
  have quote : peek (writeString name ++ rest) = .ok (some '"', writeString name ++ rest) := rfl
  rw [nextKey, Reader.bind_ok quote]
  change (string >>= fun name => pure (some name)) _ = _
  rw [Reader.bind_ok (string_written name rest)]
  rfl

theorem nextKey_comma (name : String) (rest : List Char) :
    nextKey false (',' :: (writeString name ++ rest)) = .ok (some name, rest) := by
  have comma : peek (',' :: (writeString name ++ rest)) =
      .ok (some ',', ',' :: (writeString name ++ rest)) := rfl
  have passed : advance (',' :: (writeString name ++ rest)) = .ok ((), writeString name ++ rest) :=
    rfl
  have quote : peek (writeString name ++ rest) = .ok (some '"', writeString name ++ rest) := rfl
  rw [nextKey, Reader.bind_ok comma]
  change (advance >>= fun _ => peek >>= _) _ = _
  rw [Reader.bind_ok passed, Reader.bind_ok quote]
  change (string >>= fun name => pure (some name)) _ = _
  rw [Reader.bind_ok (string_written name rest)]
  rfl

section Members

variable {σ : Type} {member : σ → String → Reader σ} {state next final : σ}

/-- A field is read, and then the others. -/
theorem membersFrom_cons {fuel : Nat} {first : Bool} {name : String}
    {text written rest tail : List Char} (key : nextKey first text = .ok (some name, written))
    (read : member state name written = .ok (next, rest))
    (later : membersFrom member fuel false next rest = .ok (final, tail)) :
    membersFrom member (fuel + 1) first state text = .ok (final, tail) := by
  rw [membersFrom, Reader.bind_ok key]
  change (member state name >>= fun next => membersFrom member fuel false next) written = _
  rw [Reader.bind_ok read, later]

/-- What stands behind a field of an object can follow a value. -/
theorem follows_fields (fields : List (String × List Char)) (rest : List Char) :
    Follows (fields.flatMap (fun field => ',' :: writeField field) ++ '\x7d' :: rest) := by
  cases fields with
  | nil => exact .inr (.inr rfl)
  | cons field fields => exact .inl rfl

/-- The fields behind the first one are read, and the object ends at its closing bracket. -/
theorem membersFrom_written {fields : List (String × List Char)}
    (reads : ReadsFields member state fields final) (rest : List Char) {fuel : Nat}
    (enough : fields.length < fuel) :
    membersFrom member fuel false state
        (fields.flatMap (fun field => ',' :: writeField field) ++ '\x7d' :: rest) =
      .ok (final, '\x7d' :: rest) := by
  induction reads generalizing fuel with
  | nil state =>
    obtain ⟨fuel, rfl⟩ := Nat.exists_eq_add_one.mpr enough
    rfl
  | @cons state next final name written fields field _ ih =>
    obtain ⟨fuel, rfl⟩ := Nat.exists_eq_add_one.mpr (Nat.zero_lt_of_lt enough)
    have read := field _ (follows_fields fields rest)
    have later := ih (Nat.lt_of_succ_lt_succ enough)
    rw [List.flatMap_cons, List.cons_append, List.cons_append, writeField, List.append_assoc,
      List.append_assoc, List.cons_append]
    exact membersFrom_cons (nextKey_comma name _) read later

/-- All fields of an object are read. -/
theorem members_written {fields : List (String × List Char)}
    (reads : ReadsFields member state fields final) (rest : List Char) :
    members member state ([','].intercalate (fields.map writeField) ++ '\x7d' :: rest) =
      .ok (final, '\x7d' :: rest) := by
  change membersFrom member (_ + 1) true state _ = _
  cases reads with
  | nil => rfl
  | @cons _ next _ name written fields field reads =>
    have read := field _ (follows_fields fields rest)
    have length := length_le_flatMap (fun field => List.cons_ne_nil ',' (writeField field)) fields
    rw [List.map_cons, intercalate_cons, List.flatMap_map, List.append_assoc]
    rw [show writeField (name, written) = writeString name ++ ':' :: written from rfl,
      List.append_assoc, List.cons_append]
    refine membersFrom_cons (nextKey_first name _) read (membersFrom_written reads rest ?_)
    rw [List.length_append, List.length_cons, List.length_append, List.length_append]
    omega

end Members

/-- **An object is read back** where a structure is expected. -/
theorem reads_expectStructure {α : Type} (expected : String) {depth : Nat}
    (list : Nat → Reader α) {object : Nat → Reader α} {fields : List (String × List Char)}
    {value : α}
    (reads : ∀ rest,
      object (depth + 1) ([','].intercalate (fields.map writeField) ++ '\x7d' :: rest) =
        .ok (value, '\x7d' :: rest)) :
    Reads (expectStructure expected (depth + 2) list object) (writeObject fields) value := by
  refine ⟨⟨'\x7b', _, rfl, rfl, by decide⟩, fun rest _ => ?_⟩
  have inside := reads rest
  have shape : writeObject fields ++ rest =
      '\x7b' :: ([','].intercalate (fields.map writeField) ++ '\x7d' :: rest) := by
    rw [writeObject, List.cons_append, List.cons_append, List.append_assoc, List.singleton_append]
    rfl
  generalize [','].intercalate (fields.map writeField) ++ '\x7d' :: rest = behind at inside shape
  have first : peek ('\x7b' :: behind) = .ok (some '\x7b', '\x7b' :: behind) := rfl
  have closed : closeObject ('\x7d' :: rest) = .ok ((), rest) := rfl
  rw [shape, expectStructure, Reader.bind_ok first]
  change (openBracket (depth + 2) >>= fun inner => object inner >>= fun value =>
    closeObject >>= fun _ => pure value) _ = _
  rw [Reader.bind_ok (openBracket_ok depth '\x7b' behind), Reader.bind_ok inside,
    Reader.bind_ok closed]
  rfl

/-! ## Kept values -/

theorem value_eq (depth : Nat) (text : List Char) :
    value depth text = valueFrom (2 * text.length + 2) depth text := rfl

/-- A string that is kept for later is the string that was written. -/
theorem reads_value_string (depth : Nat) (text : String) :
    Reads (value depth) (writeString text) (.string text) := by
  refine ⟨solid_writeString text, fun rest _ => ?_⟩
  have quote : peek (writeString text ++ rest) = .ok (some '"', writeString text ++ rest) := rfl
  have known : found '"' (writeString text ++ rest) = .ok (.string text, rest) := by
    change (string >>= fun text => pure (Found.string text)) _ = _
    rw [Reader.bind_ok (string_written text rest)]
    rfl
  rw [value_eq, valueFrom, Reader.bind_ok quote]
  change (found '"' >>= _) _ = _
  rw [Reader.bind_ok known]
  rfl

/-- A number begins with a digit, and so it is found to be a number. -/
theorem found_digit {digit : Char} (decimal : isDigit digit = true) :
    found digit = number >>= fun number => pure (.number number) := by
  unfold found
  split
  iterate 6
    · cases decimal
  · rw [if_pos (.inr decimal)]

/-- A natural number that is kept for later is the number that was written. -/
theorem reads_value_number (depth : Nat) {count : Nat} (fits : count ≤ significandLimit) :
    Reads (value depth) (writeNat count) (.number (.natural count)) := by
  obtain ⟨digit, others, shape, decimal⟩ := writeNat_cons count
  have solid := isSpace_of_isDigit decimal
  have inside : digit ≠ ']' := by
    rintro rfl
    cases decimal
  have list : digit ≠ '[' := by
    rintro rfl
    cases decimal
  have object : digit ≠ '\x7b' := by
    rintro rfl
    cases decimal
  refine ⟨⟨digit, others, shape, solid, inside⟩, fun rest follows => ?_⟩
  have first : peek (writeNat count ++ rest) = .ok (some digit, writeNat count ++ rest) := by
    rw [shape]
    exact Reader.peek_cons solid _
  have known : found digit (writeNat count ++ rest) = .ok (.number (.natural count), rest) := by
    rw [found_digit decimal, Reader.bind_ok (number_written fits follows)]
    rfl
  rw [value_eq, valueFrom, Reader.bind_ok first]
  simp only
  rw [Reader.bind_ok known]
  rfl

end AddressPool.Json
