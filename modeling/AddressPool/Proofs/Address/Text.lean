import AddressPool.Address.Parser
import AddressPool.Address.Printer
import AddressPool.Proofs.Text.Numerals

/-!
# Reading addresses back

The text of an address is read back as that address, in the strict and in the
lenient dialect (`address?_chars`).  So the text determines the address, also
between an IPv4 address and its IPv4-mapped form.

An address text consists of digits, colons and points (`mem_chars`).  Conversely a
text that is read as an address starts with a digit or a colon
(`head_of_address?`), and this is what keeps all other names apart from the texts
of addresses.
-/

namespace AddressPool

set_option autoImplicit false

open Numeral

namespace AddressDialect

variable {dialect : AddressDialect}

/-! ## Dotted octets -/

theorem octet?_decimal {octet : Nat} (bound : octet < 256) :
    dialect.octet? (decimal octet) = some octet := by
  have found : read? 10 3 (decimal octet) = some octet := by
    refine read?_decimal (by decide) ?_
    exact Nat.lt_trans bound (by decide)
  simp only [octet?, found, Option.bind_eq_bind, Option.bind_some, hasLeadingZero_decimal,
    Bool.not_false, Bool.or_true, bound, and_self, if_true]

/-- Only digits are read as an octet, and at least one. -/
theorem digits_of_octet? {octet : Nat} {digits : List Char}
    (found : dialect.octet? digits = some octet) :
    digits ≠ [] ∧ ∀ char ∈ digits, (digitValue? char).isSome = true := by
  simp only [octet?, Option.bind_eq_bind, Option.bind_eq_some_iff] at found
  obtain ⟨value, read, _⟩ := found
  exact digits_of_read? read

/-- No character of a numeral is a separator. -/
theorem ne_of_digit {char : Char} (separator : Char) (digit : (digitValue? char).isSome = true)
    (none : digitValue? separator = none) : char ≠ separator := by
  rintro rfl
  rw [none] at digit
  cases digit

theorem point_notMem_decimal (number : Nat) : '.' ∉ decimal number := fun member =>
  ne_of_digit '.' (digits_of_decimal number _ member) (by decide) rfl

/-- Four octets are read back as the number that they are written for. -/
theorem dotted?_dotted {number : Nat} (bound : number < 2 ^ 32) :
    dialect.dotted? (Address.dotted number) = some number := by
  have pieces : (Address.dotted number).splitOn '.' = (split 256 4 number).map decimal := by
    refine List.splitOn_intercalate '.' (fun piece member => ?_) (by simp [split])
    obtain ⟨octet, _, rfl⟩ := List.mem_map.mp member
    exact point_notMem_decimal octet
  have octets : ∀ octet ∈ split 256 4 number, dialect.octet? (decimal octet) = some octet := by
    intro octet member
    exact octet?_decimal (lt_of_mem_split (by decide) member)
  have joined : join 256 (split 256 4 number) = number := by
    rw [join_split]
    exact Nat.mod_eq_of_lt bound
  simp only [split, List.mem_cons, List.not_mem_nil, or_false, forall_eq_or_imp, forall_eq]
    at octets joined
  simp only [dotted?, pieces, split, List.map_cons, List.map_nil, List.mapM_cons, List.mapM_nil,
    octets, Option.pure_def, Option.bind_eq_bind, Option.bind_some, joined]

/-- What is read as four octets has a digit in front, and digits and points only. -/
theorem chars_of_dotted? {number : Nat} {text : List Char}
    (found : dialect.dotted? text = some number) :
    (∃ digit rest, text = digit :: rest ∧ (digitValue? digit).isSome = true) ∧
      ∀ char ∈ text, (digitValue? char).isSome = true ∨ char = '.' := by
  have whole : ['.'].intercalate (text.splitOn '.') = text := List.intercalate_splitOn '.'
  unfold dotted? at found
  split at found
  · rename_i first second third fourth pieces
    simp only [List.mapM_cons, List.mapM_nil, Option.pure_def, Option.bind_eq_bind,
      Option.bind_eq_some_iff] at found
    obtain ⟨octets, ⟨_, one, _, ⟨_, two, _, ⟨_, three, _, ⟨_, four, _⟩, _⟩, _⟩, _⟩, _⟩ := found
    have first_digits := digits_of_octet? one
    have second_digits := (digits_of_octet? two).2
    have third_digits := (digits_of_octet? three).2
    have fourth_digits := (digits_of_octet? four).2
    rw [pieces] at whole
    simp only [List.intercalate, List.intersperse, List.flatten_cons, List.flatten_nil,
      List.append_nil] at whole
    constructor
    · obtain ⟨digit, rest, shape⟩ := List.exists_cons_of_ne_nil first_digits.1
      refine ⟨digit, _, by rw [← whole, shape, List.cons_append], ?_⟩
      exact first_digits.2 digit (by simp [shape])
    · intro char member
      rw [← whole] at member
      simp only [List.mem_append, List.mem_singleton] at member
      rcases member with member | member | member | member | member | member | member
      · exact .inl (first_digits.2 char member)
      · exact .inr member
      · exact .inl (second_digits char member)
      · exact .inr member
      · exact .inl (third_digits char member)
      · exact .inr member
      · exact .inl (fourth_digits char member)
  · cases found

theorem dotted?_of_colon {text : List Char} (member : ':' ∈ text) :
    dialect.dotted? text = none := by
  cases found : dialect.dotted? text with
  | none => rfl
  | some number =>
    rcases (chars_of_dotted? found).2 ':' member with digit | point
    · exact absurd rfl (ne_of_digit ':' digit (by decide))
    · exact absurd point (by decide)

/-! ## Groups between colons -/

theorem group?_hexadecimal {group : Nat} (bound : group < 2 ^ 16) :
    group? (hexadecimal group) = some group :=
  read?_hexadecimal (by decide) (Nat.lt_of_lt_of_le bound (by decide))

theorem colon_notMem_hexadecimal (number : Nat) : ':' ∉ hexadecimal number := fun member =>
  ne_of_digit ':' (digits_of_hexadecimal number _ member) (by decide) rfl

theorem groups?_map {tail : Bool} {groups : List Nat} (bound : ∀ group ∈ groups, group < 2 ^ 16) :
    dialect.groups? tail (groups.map hexadecimal) = some groups := by
  induction groups with
  | nil => rfl
  | cons group rest ih =>
    have here := group?_hexadecimal (bound group (List.mem_cons_self ..))
    have later := ih fun other member => bound other (List.mem_cons_of_mem _ member)
    cases rest with
    | nil => simp only [List.map_cons, List.map_nil, groups?, here]
    | cons next others =>
      rw [List.map_cons] at later
      simp only [List.map_cons, groups?, here, later, Option.bind_eq_bind, Option.bind_some]

theorem splitOn_coloned {groups : List Nat} (nonempty : groups ≠ []) :
    (Address.coloned groups).splitOn ':' = groups.map hexadecimal := by
  refine List.splitOn_intercalate ':' (fun piece member => ?_) (by simpa using nonempty)
  obtain ⟨group, _, rfl⟩ := List.mem_map.mp member
  exact colon_notMem_hexadecimal group

@[simp]
theorem coloned_nil : Address.coloned [] = [] := rfl

theorem coloned_singleton (group : Nat) : Address.coloned [group] = hexadecimal group := by
  simp [Address.coloned, List.intercalate]

theorem coloned_cons_cons (group next : Nat) (rest : List Nat) :
    Address.coloned (group :: next :: rest) =
      hexadecimal group ++ ':' :: Address.coloned (next :: rest) := by
  simp [Address.coloned, List.intercalate]

theorem coloned_ne_nil {groups : List Nat} (nonempty : groups ≠ []) :
    Address.coloned groups ≠ [] := by
  intro empty
  have pieces := splitOn_coloned nonempty
  rw [empty] at pieces
  cases groups with
  | nil => exact nonempty rfl
  | cons group rest =>
    have first := (List.cons.inj pieces).1
    exact hexadecimal_ne_nil group first.symm

/-- A side of `::`, or a text without it, is read back. -/
theorem side?_coloned {tail : Bool} {groups : List Nat}
    (bound : ∀ group ∈ groups, group < 2 ^ 16) :
    dialect.side? tail (Address.coloned groups) = some groups := by
  by_cases empty : groups = []
  · subst empty
    rfl
  · have filled : (Address.coloned groups).isEmpty = false :=
      List.isEmpty_eq_false_iff.mpr (coloned_ne_nil empty)
    rw [side?, filled, splitOn_coloned empty, groups?_map bound]
    rfl

/-! ## The elided run of zero groups -/

/-- A colon that is not followed by a colon is passed over. -/
theorem splitElision?_cons {char : Char} {rest : List Char}
    (apart : char ≠ ':' ∨ rest.head? ≠ some ':') :
    splitElision? (char :: rest) =
      (splitElision? rest).map fun (before, after) => (char :: before, after) := by
  rw [splitElision?]
  rintro rest' rfl rfl
  simp at apart

theorem splitElision?_append {word : List Char} (colonless : ':' ∉ word) (rest : List Char) :
    splitElision? (word ++ rest) =
      (splitElision? rest).map fun (before, after) => (word ++ before, after) := by
  induction word with
  | nil => simp
  | cons char word ih =>
    simp only [List.mem_cons, not_or] at colonless
    rw [List.cons_append, splitElision?_cons (.inl fun equal => colonless.1 equal.symm),
      ih colonless.2, Option.map_map]
    rfl

/-- The text behind a group never starts with a colon. -/
theorem head?_coloned_ne_colon (group : Nat) (rest : List Nat) (tail : List Char) :
    (Address.coloned (group :: rest) ++ tail).head? ≠ some ':' := by
  obtain ⟨digit, digits, shape⟩ := List.exists_cons_of_ne_nil (hexadecimal_ne_nil group)
  have different : digit ≠ ':' :=
    ne_of_digit ':' (digits_of_hexadecimal group digit (by simp [shape])) (by decide)
  cases rest with
  | nil => simpa [coloned_singleton, shape] using different
  | cons next others => simpa [coloned_cons_cons, shape] using different

/-- Groups between single colons are passed over in the search for `::`. -/
theorem splitElision?_coloned_append (groups : List Nat) (tail : List Char) :
    splitElision? (Address.coloned groups ++ tail) =
      (splitElision? tail).map fun (before, after) =>
        (Address.coloned groups ++ before, after) := by
  induction groups with
  | nil => simp
  | cons group rest ih =>
    have colonless := colon_notMem_hexadecimal group
    cases rest with
    | nil => rw [coloned_singleton, splitElision?_append colonless]
    | cons next others =>
      rw [coloned_cons_cons, List.append_assoc, splitElision?_append colonless, List.cons_append,
        splitElision?_cons (.inr (head?_coloned_ne_colon next others tail)), ih,
        Option.map_map, Option.map_map]
      simp only [Function.comp_def, List.append_assoc, List.cons_append]

theorem splitElision?_coloned (groups : List Nat) :
    splitElision? (Address.coloned groups) = none := by
  have passed := splitElision?_coloned_append groups []
  simpa [splitElision?] using passed

theorem splitElision?_elision (front back : List Nat) :
    splitElision? (Address.coloned front ++ [':', ':'] ++ Address.coloned back) =
      some (Address.coloned front, Address.coloned back) := by
  rw [List.append_assoc, splitElision?_coloned_append]
  simp [splitElision?]

end AddressDialect

namespace Address

/-- The leading zero groups stand in front. -/
theorem replicate_leadingZeros (groups : List Nat) :
    List.replicate (leadingZeros groups) 0 ++ groups.drop (leadingZeros groups) = groups := by
  induction groups with
  | nil => rfl
  | cons group rest ih =>
    cases group with
    | zero =>
      simp only [leadingZeros, List.replicate_succ, List.drop_succ_cons, List.cons_append, ih]
    | succ group => rfl

/-- The longest run of zero groups stands where it is said to stand. -/
theorem longestZeroRun_split (groups : List Nat) :
    groups.take (longestZeroRun groups).1 ++ List.replicate (longestZeroRun groups).2 0 ++
      groups.drop ((longestZeroRun groups).1 + (longestZeroRun groups).2) = groups := by
  induction groups with
  | nil => rfl
  | cons group rest ih =>
    unfold longestZeroRun
    simp only
    split
    · simpa using replicate_leadingZeros (group :: rest)
    · simp only [List.take_succ_cons, List.cons_append, Nat.add_right_comm _ 1 _,
        List.drop_succ_cons]
      rw [ih]

end Address

namespace AddressDialect

variable {dialect : AddressDialect}

/-- Eight groups are read back, whether a run of zero groups is elided or not. -/
theorem eightGroups?_elided (elides : dialect.leastElided ≤ 2) {groups : List Nat}
    (count : groups.length = 8) (bound : ∀ group ∈ groups, group < 2 ^ 16) :
    dialect.eightGroups? (Address.elided groups) = some groups := by
  unfold Address.elided
  simp only
  split
  · simp only [eightGroups?, splitElision?_coloned, side?_coloned bound, Option.bind_eq_bind,
      Option.bind_some, count, if_true]
  · rename_i long
    have whole := Address.longestZeroRun_split groups
    generalize Address.longestZeroRun groups = run at whole long ⊢
    have front_bound : ∀ group ∈ groups.take run.1, group < 2 ^ 16 := by
      intro group member
      exact bound group (List.mem_of_mem_take member)
    have back_bound : ∀ group ∈ groups.drop (run.1 + run.2), group < 2 ^ 16 := by
      intro group member
      exact bound group (List.mem_of_mem_drop member)
    have lengths := congrArg List.length whole
    simp only [List.length_append, List.length_replicate, count] at lengths
    simp only [eightGroups?, splitElision?_elision, side?_coloned front_bound,
      side?_coloned back_bound, Option.bind_eq_bind, Option.bind_some, fillElision?]
    have gap : 8 - (groups.take run.1).length - (groups.drop (run.1 + run.2)).length = run.2 := by
      omega
    rw [if_pos (by omega), gap, whole]

/-- The IPv4-mapped form is read back as its eight groups. -/
theorem eightGroups?_mapped (elides : dialect.leastElided ≤ 2) {number : Nat}
    (bound : number < 2 ^ 32) :
    dialect.eightGroups? ("::ffff:".toList ++ Address.dotted number) =
      some ([0, 0, 0, 0, 0, 0xffff] ++ split (2 ^ 16) 2 number) := by
  have colonless : ':' ∉ Address.dotted number := by
    intro member
    have read : dialect.dotted? (Address.dotted number) = some number := dotted?_dotted bound
    rw [dotted?_of_colon member] at read
    cases read
  have pointed : '.' ∈ Address.dotted number := by
    simp [Address.dotted, split, List.intercalate, List.intersperse]
  have group : group? (Address.dotted number) = none := by
    cases found : group? (Address.dotted number) with
    | none => rfl
    | some group =>
      have digit := (digits_of_read? found).2 '.' pointed
      exact absurd rfl (ne_of_digit '.' digit (by decide))
  have cut : splitElision? ("::ffff:".toList ++ Address.dotted number) =
      some ([], "ffff:".toList ++ Address.dotted number) := rfl
  have pieces : ("ffff:".toList ++ Address.dotted number).splitOn ':' =
      ["ffff".toList, Address.dotted number] := by
    have letters : ':' ∉ "ffff".toList := by decide
    have split := List.splitOn_append_cons_self_of_not_mem letters (Address.dotted number)
    rw [List.splitOn_eq_singleton colonless] at split
    exact split
  have back : dialect.side? true ("ffff:".toList ++ Address.dotted number) =
      some (0xffff :: Numeral.split (2 ^ 16) 2 number) := by
    have first : group? "ffff".toList = some 0xffff := by decide
    have filled : ("ffff:".toList ++ Address.dotted number).isEmpty = false := rfl
    rw [side?, filled, pieces]
    simp only [Bool.false_eq_true, if_false, groups?, first, group, dotted?_dotted bound, if_true,
      Option.map_some, Option.bind_eq_bind, Option.bind_some]
  have front : dialect.side? false [] = some [] := rfl
  simp only [eightGroups?, cut, front, back, Option.bind_eq_bind, Option.bind_some, fillElision?,
    List.length_nil, List.length_cons, length_split]
  rw [if_pos (by omega)]
  rfl

theorem colon_mem_elided {groups : List Nat} (count : groups.length = 8) :
    ':' ∈ Address.elided groups := by
  unfold Address.elided
  simp only
  split
  · match groups, count with
    | first :: second :: rest, _ => simp [coloned_cons_cons]
  · simp

/-- **The text of an address is read back as the address.** -/
theorem address?_chars (elides : dialect.leastElided ≤ 2) (address : Address) :
    dialect.address? address.chars = some address := by
  cases address with
  | v4 bits =>
    have read : dialect.dotted? (Address.dotted bits.toNat) = some bits.toNat :=
      dotted?_dotted bits.isLt
    simp only [address?, Address.chars, read, BitVec.ofNat_toNat, BitVec.setWidth_eq]
  | v6 bits =>
    have bound := bits.isLt
    rw [Address.chars]
    split
    · rename_i mapped
      have low : bits.toNat % 2 ^ 32 < 2 ^ 32 := Nat.mod_lt _ (by decide)
      have colon : ':' ∈ "::ffff:".toList ++ Address.dotted (bits.toNat % 2 ^ 32) :=
        List.mem_append_left _ (by decide)
      have joined : join (2 ^ 16) ([0, 0, 0, 0, 0, 0xffff] ++
          split (2 ^ 16) 2 (bits.toNat % 2 ^ 32)) = bits.toNat := by
        rw [join, List.foldl_append, foldl_split]
        simp only [List.foldl_cons, List.foldl_nil]
        omega
      simp only [address?, dotted?_of_colon colon, eightGroups?_mapped elides low, joined,
        Option.map_some, BitVec.ofNat_toNat, BitVec.setWidth_eq]
    · have count := length_split (2 ^ 16) 8 bits.toNat
      have groups := eightGroups?_elided elides count fun group member =>
        lt_of_mem_split (by decide) member
      have joined : join (2 ^ 16) (split (2 ^ 16) 8 bits.toNat) = bits.toNat := by
        rw [join_split]
        exact Nat.mod_eq_of_lt bound
      simp only [address?, dotted?_of_colon (colon_mem_elided count), groups, joined,
        Option.map_some, BitVec.ofNat_toNat, BitVec.setWidth_eq]

/-! ## What is not the text of an address -/

theorem splitOn_cons_of_ne {char separator : Char} (different : char ≠ separator)
    (rest : List Char) :
    ∃ piece pieces, (char :: rest).splitOn separator = (char :: piece) :: pieces := by
  have nonempty := List.splitOn_ne_nil separator rest
  obtain ⟨piece, pieces, shape⟩ := List.exists_cons_of_ne_nil nonempty
  refine ⟨piece, pieces, ?_⟩
  rw [List.splitOn_cons_eq_if_modifyHead, if_neg (by simpa using different), shape]
  rfl

theorem digit_of_dotted? {char : Char} {rest : List Char} {number : Nat}
    (found : dialect.dotted? (char :: rest) = some number) : (digitValue? char).isSome = true := by
  obtain ⟨digit, tail, shape, isDigit⟩ := (chars_of_dotted? found).1
  rw [(List.cons.inj shape).1]
  exact isDigit

theorem digit_of_group? {char : Char} {rest : List Char} {group : Nat}
    (found : group? (char :: rest) = some group) : (digitValue? char).isSome = true :=
  (digits_of_read? found).2 char (List.mem_cons_self ..)

/-- The groups of a text start with a digit. -/
theorem digit_of_groups? {tail : Bool} {char : Char} {piece : List Char}
    {pieces : List (List Char)} {groups : List Nat}
    (found : dialect.groups? tail ((char :: piece) :: pieces) = some groups) :
    (digitValue? char).isSome = true := by
  cases pieces with
  | nil =>
    rw [groups?] at found
    split at found
    · rename_i group read
      exact digit_of_group? read
    · split at found
      · obtain ⟨number, read, _⟩ := Option.map_eq_some_iff.mp found
        exact digit_of_dotted? read
      · cases found
  | cons next others =>
    simp only [groups?, Option.bind_eq_bind, Option.bind_eq_some_iff] at found
    obtain ⟨group, read, _⟩ := found
    exact digit_of_group? read

theorem head_of_side? {tail : Bool} {char : Char} {rest : List Char} {groups : List Nat}
    (found : dialect.side? tail (char :: rest) = some groups) :
    (digitValue? char).isSome = true ∨ char = ':' := by
  by_cases colon : char = ':'
  · exact .inr colon
  · obtain ⟨piece, pieces, shape⟩ := splitOn_cons_of_ne colon rest
    have filled : (char :: rest).isEmpty = false := rfl
    rw [side?, filled, shape] at found
    exact .inl (digit_of_groups? found)

/-- A text that is read as an address starts with a digit or a colon. -/
theorem head_of_address? {char : Char} {rest : List Char} {address : Address}
    (found : dialect.address? (char :: rest) = some address) :
    (digitValue? char).isSome = true ∨ char = ':' := by
  unfold address? at found
  split at found
  · rename_i number read
    exact .inl (digit_of_dotted? read)
  · obtain ⟨groups, read, _⟩ := Option.map_eq_some_iff.mp found
    unfold eightGroups? at read
    split at read
    · rename_i before after cut
      simp only [Option.bind_eq_bind, Option.bind_eq_some_iff] at read
      obtain ⟨front, side, _⟩ := read
      by_cases colon : char = ':'
      · exact .inr colon
      · rw [splitElision?_cons (.inl colon)] at cut
        obtain ⟨⟨before', after'⟩, _, same⟩ := Option.map_eq_some_iff.mp cut
        obtain ⟨rfl, rfl⟩ := Prod.mk.inj same
        exact head_of_side? side
    · simp only [Option.bind_eq_bind, Option.bind_eq_some_iff] at read
      obtain ⟨groups', side, _⟩ := read
      exact head_of_side? side

end AddressDialect

/-! ## Characters of address texts -/

namespace Address

/-- The characters that address texts are made of. -/
def IsTextual (char : Char) : Prop := (digitValue? char).isSome = true ∨ char = ':' ∨ char = '.'

instance (char : Char) : Decidable (IsTextual char) := inferInstanceAs (Decidable (_ ∨ _ ∨ _))

theorem textual_of_mem_dotted {number : Nat} {char : Char} (member : char ∈ dotted number) :
    IsTextual char := by
  simp only [dotted, split, List.map_cons, List.map_nil, List.intercalate, List.intersperse,
    List.flatten_cons, List.flatten_nil, List.append_nil, List.mem_append,
    List.mem_singleton] at member
  rcases member with member | member | member | member | member | member | member
  · exact .inl (digits_of_decimal _ _ member)
  · exact .inr (.inr member)
  · exact .inl (digits_of_decimal _ _ member)
  · exact .inr (.inr member)
  · exact .inl (digits_of_decimal _ _ member)
  · exact .inr (.inr member)
  · exact .inl (digits_of_decimal _ _ member)

theorem textual_of_mem_coloned {groups : List Nat} {char : Char}
    (member : char ∈ coloned groups) : IsTextual char := by
  induction groups with
  | nil => simp at member
  | cons group rest ih =>
    cases rest with
    | nil =>
      rw [AddressDialect.coloned_singleton] at member
      exact .inl (digits_of_hexadecimal _ _ member)
    | cons next others =>
      rw [AddressDialect.coloned_cons_cons, List.mem_append, List.mem_cons] at member
      rcases member with member | rfl | member
      · exact .inl (digits_of_hexadecimal _ _ member)
      · exact .inr (.inl rfl)
      · exact ih member

/-- Address texts consist of digits, colons and points. -/
theorem mem_chars {address : Address} {char : Char} (member : char ∈ address.chars) :
    IsTextual char := by
  cases address with
  | v4 bits => exact textual_of_mem_dotted member
  | v6 bits =>
    rw [chars] at member
    split at member
    · rcases List.mem_append.mp member with front | back
      · have letters : "::ffff:".toList = [':', ':', 'f', 'f', 'f', 'f', ':'] := rfl
        rw [letters] at front
        simp only [List.mem_cons, List.not_mem_nil, or_false] at front
        rcases front with rfl | rfl | rfl | rfl | rfl | rfl | rfl <;> decide
      · exact textual_of_mem_dotted back
    · unfold elided at member
      simp only at member
      split at member
      · exact textual_of_mem_coloned member
      · simp only [List.mem_append, List.mem_cons, List.not_mem_nil, or_false, or_self] at member
        rcases member with (front | rfl) | back
        · exact textual_of_mem_coloned front
        · exact .inr (.inl rfl)
        · exact textual_of_mem_coloned back

/-! ## Lengths -/

theorem length_decimal_le {octet : Nat} (bound : octet < 256) : (decimal octet).length ≤ 3 :=
  (Nat.length_toDigits_le_iff (by decide) (by decide)).mpr (Nat.lt_trans bound (by decide))

theorem length_hexadecimal_le {group : Nat} (bound : group < 2 ^ 16) :
    (hexadecimal group).length ≤ 4 :=
  (Nat.length_toDigits_le_iff (by decide) (by decide)).mpr (Nat.lt_of_lt_of_le bound (by decide))

theorem length_dotted_le (number : Nat) : (dotted number).length ≤ 15 := by
  have octets : ∀ octet ∈ split 256 4 number, (decimal octet).length ≤ 3 := by
    intro octet member
    exact length_decimal_le (lt_of_mem_split (by decide) member)
  simp only [split, List.mem_cons, List.not_mem_nil, or_false, forall_eq_or_imp, forall_eq]
    at octets
  simp only [dotted, split, List.map_cons, List.map_nil, List.intercalate, List.intersperse,
    List.flatten_cons, List.flatten_nil, List.append_nil, List.length_append, List.length_cons,
    List.length_nil]
  omega

theorem length_coloned_le {groups : List Nat} (bound : ∀ group ∈ groups, group < 2 ^ 16) :
    (coloned groups).length ≤ 5 * groups.length := by
  induction groups with
  | nil => exact Nat.le_refl 0
  | cons group rest ih =>
    have here := length_hexadecimal_le (bound group (List.mem_cons_self ..))
    have later := ih fun other member => bound other (List.mem_cons_of_mem _ member)
    cases rest with
    | nil =>
      rw [AddressDialect.coloned_singleton, List.length_singleton]
      omega
    | cons next others =>
      rw [AddressDialect.coloned_cons_cons, List.length_append]
      simp only [List.length_cons] at later ⊢
      omega

theorem length_elided_le {groups : List Nat} (bound : ∀ group ∈ groups, group < 2 ^ 16) :
    (elided groups).length ≤ 5 * groups.length + 2 := by
  unfold elided
  simp only
  split
  · exact Nat.le_add_right_of_le (length_coloned_le bound)
  · generalize longestZeroRun groups = run
    have front : (coloned (groups.take run.1)).length ≤ 5 * (groups.take run.1).length :=
      length_coloned_le fun group member => bound group (List.mem_of_mem_take member)
    have back : (coloned (groups.drop (run.1 + run.2))).length ≤
        5 * (groups.drop (run.1 + run.2)).length :=
      length_coloned_le fun group member => bound group (List.mem_of_mem_drop member)
    simp only [List.length_append, List.length_cons, List.length_nil, List.length_take,
      List.length_drop] at front back ⊢
    omega

theorem length_chars_le (address : Address) : address.chars.length ≤ 42 := by
  cases address with
  | v4 bits => exact Nat.le_trans (length_dotted_le _) (by decide)
  | v6 bits =>
    rw [chars]
    split
    · have tail := length_dotted_le (bits.toNat % 2 ^ 32)
      have head : "::ffff:".toList.length = 7 := rfl
      rw [List.length_append, head]
      omega
    · have bound : ∀ group ∈ split (2 ^ 16) 8 bits.toNat, group < 2 ^ 16 := by
        intro group member
        exact lt_of_mem_split (by decide) member
      have length := length_elided_le bound
      rwa [length_split] at length

/-! ## Texts as strings -/

theorem ofChars?_chars (address : Address) : ofChars? address.chars = some address :=
  AddressDialect.address?_chars (by decide) address

theorem ofString?_text (address : Address) : ofString? address.text = some address := by
  rw [ofString?, toList_text, ofChars?_chars]

/-- The text determines the address. -/
theorem text_injective {left right : Address} (same : left.text = right.text) : left = right := by
  have read := ofString?_text left
  rw [same, ofString?_text] at read
  exact (Option.some.inj read).symm

/-- A text that starts with something else than a digit or a colon is no address. -/
theorem ofString?_eq_none {text : String} {char : Char} {rest : List Char}
    (shape : text.toList = char :: rest) (digit : digitValue? char = none) (colon : char ≠ ':') :
    ofString? text = none := by
  rw [ofString?, shape]
  cases found : ofChars? (char :: rest) with
  | none => rfl
  | some address =>
    rcases AddressDialect.head_of_address? found with isDigit | isColon
    · rw [digit] at isDigit
      cases isDigit
    · exact absurd isColon colon

end Address

end AddressPool
