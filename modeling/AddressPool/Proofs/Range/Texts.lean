import AddressPool.Proofs.Range.Bounds
import AddressPool.Proofs.Store.Records
import AddressPool.Proofs.Text.Lines

/-!
# Reading exclusions back

An exclusion is read in one of three forms, and which one is told by the separators in its text: a
slash makes it a prefix, and else a hyphen makes it a stretch.  The text of an address consists of
digits, colons and points, so neither separator is ever part of it (`Address.notMem_chars`), and the
first separator that is found is the one that was written.

Hence whatever is written is read back: every exclusion from its text, whether or not its ends are in
order or of one family (`Exclusion.ofChars_chars`), two ends with blanks around them
(`Exclusion.ofChars_stretch`), and the block of every prefix from the text of the prefix, also when
its address has bits behind the length (`Exclusion.ofChars_block`).
-/

namespace AddressPool

set_option autoImplicit false

/-! ## Separators and blanks -/

namespace Address

/-- The text of an address holds no character that is neither a digit nor a colon nor a point. -/
theorem notMem_chars {char : Char} (strange : ¬ IsTextual char) (address : Address) :
    char ∉ address.chars := fun member => strange (mem_chars member)

/-- The text of an address is found between any blanks. -/
theorem trim_blank_chars {front back : List Char} (blank_front : Text.Blank front)
    (blank_back : Text.Blank back) (address : Address) :
    Text.trim (front ++ address.chars ++ back) = address.chars := by
  have solid : Text.Solid address.chars :=
    .of_forall fun char member => isBlank_of_isTextual (mem_chars member)
  exact Text.trim_eq_iff.mpr ⟨solid, front, back, blank_front, blank_back, rfl⟩

/-- Blanks around the text of an address bring in no separator. -/
theorem notMem_blank_chars {char : Char} (strange : ¬ IsTextual char)
    (visible : Text.isBlank char = false) {front back : List Char} (blank_front : Text.Blank front)
    (blank_back : Text.Blank back) (address : Address) :
    char ∉ front ++ address.chars ++ back := by
  rw [List.mem_append, List.mem_append, not_or, not_or]
  exact ⟨⟨blank_front.notMem visible, address.notMem_chars strange⟩, blank_back.notMem visible⟩

end Address

/-! ## Prefixes -/

namespace Prefix

/-- The length of a prefix has no more digits than are read. -/
theorem length_lt_pow (block : Prefix) : block.length < 10 ^ lengthDigits block.family := by
  have bound : block.length ≤ block.family.width := block.length_le
  cases family : block.family with
  | v4 =>
    rw [family] at bound
    exact Nat.lt_of_le_of_lt bound (by decide)
  | v6 =>
    rw [family] at bound
    exact Nat.lt_of_le_of_lt bound (by decide)

/-- **A prefix is read back from its text**, with the bits of its address behind the length. -/
theorem ofChars?_chars (block : Prefix) : ofChars? block.chars = some block := by
  have front : '/' ∉ block.address.chars := block.address.notMem_chars (by decide)
  have back : '/' ∉ Numeral.decimal block.length := fun member =>
    AddressDialect.ne_of_digit '/' (Numeral.digits_of_decimal _ _ member) (by decide) rfl
  have pieces : block.chars.splitOn '/' = [block.address.chars, Numeral.decimal block.length] := by
    rw [chars, List.splitOn_append_cons_self_of_not_mem front, List.splitOn_eq_singleton back]
  have address : AddressDialect.lenient.address? block.address.chars = some block.address :=
    AddressDialect.address?_chars (by decide) block.address
  have digits : 0 < lengthDigits block.address.family := by
    cases block.address.family <;> decide
  have length := Numeral.read?_decimal digits block.length_lt_pow
  simp only [ofChars?, pieces, address, length, Option.bind_eq_bind, Option.bind_some, of?,
    dif_pos block.length_le]

/-- The addresses from the lowest to the highest one of a block are those that it contains. -/
theorem between_iff_contains {block : Prefix} {address : Address} :
    Address.Between block.network block.broadcast address ↔ block.contains address = true := by
  have positive := block.size_pos
  rw [contains_iff, Address.Between, family_network]
  refine and_congr_right fun family => ?_
  rw [Address.position_eq, Address.position_eq, Address.position_eq, family, family_network,
    family_broadcast, toNat_network, toNat_broadcast]
  omega

end Prefix

/-! ## Exclusions -/

namespace Exclusion

/-- A text is cut around the hyphen that is written behind a text without one. -/
theorem splitHyphen?_append {front : List Char} (unhyphened : '-' ∉ front) (back : List Char) :
    splitHyphen? (front ++ '-' :: back) = some (front, back) := by
  induction front with
  | nil => rfl
  | cons char rest ih =>
    rw [List.mem_cons, not_or] at unhyphened
    obtain ⟨different, later⟩ := unhyphened
    rw [List.cons_append, splitHyphen?, ih later, Option.map_some]
    exact fun same => different same.symm

theorem splitHyphen?_eq_none {text : List Char} (unhyphened : '-' ∉ text) :
    splitHyphen? text = none := by
  induction text with
  | nil => rfl
  | cons char rest ih =>
    rw [List.mem_cons, not_or] at unhyphened
    obtain ⟨different, later⟩ := unhyphened
    rw [splitHyphen?, ih later, Option.map_none]
    exact fun same => different same.symm

theorem readAddress_chars (field : AddressField) (address : Address) :
    readAddress field address.chars = .ok address := by
  rw [readAddress, Address.ofChars?_chars]

/-- **Two ends are read around a hyphen**, whatever blanks are around each of them. -/
theorem ofChars_stretch {before behind before' behind' : List Char} (blank : Text.Blank before)
    (blank_behind : Text.Blank behind) (blank' : Text.Blank before')
    (blank_behind' : Text.Blank behind') (first last : Address) :
    ofChars (before ++ first.chars ++ behind ++ '-' :: (before' ++ last.chars ++ behind')) =
      .ok ⟨first, last⟩ := by
  have slash : (before ++ first.chars ++ behind ++
      '-' :: (before' ++ last.chars ++ behind')).contains '/' = false := by
    have here : '/' ∉ before ++ first.chars ++ behind :=
      first.notMem_blank_chars (by decide) (by decide) blank blank_behind
    have there : '/' ∉ before' ++ last.chars ++ behind' :=
      last.notMem_blank_chars (by decide) (by decide) blank' blank_behind'
    rw [List.contains_eq_mem, decide_eq_false_iff_not, List.mem_append, List.mem_cons, not_or,
      not_or]
    exact ⟨here, by decide, there⟩
  have hyphen : '-' ∉ before ++ first.chars ++ behind :=
    first.notMem_blank_chars (by decide) (by decide) blank blank_behind
  have start := first.trim_blank_chars blank blank_behind
  have stop := last.trim_blank_chars blank' blank_behind'
  rw [ofChars, slash, if_neg Bool.false_ne_true, splitHyphen?_append hyphen]
  simp only [start, stop, readAddress_chars]
  rfl

theorem ofChars_single (address : Address) : ofChars address.chars = .ok (single address) := by
  have slash : address.chars.contains '/' = false := by
    rw [List.contains_eq_mem, decide_eq_false_iff_not]
    exact address.notMem_chars (by decide)
  have unhyphened : '-' ∉ address.chars := address.notMem_chars (by decide)
  rw [ofChars, slash, if_neg Bool.false_ne_true, splitHyphen?_eq_none unhyphened]
  simp only [readAddress_chars]
  rfl

/-- **An exclusion is read back from its text.** -/
theorem ofChars_chars (exclusion : Exclusion) : ofChars exclusion.chars = .ok exclusion := by
  rw [chars]
  split
  · rename_i same
    rw [ofChars_single, single]
    congr 2
  · have nothing : Text.Blank [] := nofun
    have read := ofChars_stretch nothing nothing nothing nothing exclusion.first exclusion.last
    rw [List.nil_append, List.append_nil, List.nil_append, List.append_nil] at read
    exact read

/-- **The text of a prefix is read as its whole block.** -/
theorem ofChars_block (block : Prefix) : ofChars block.chars = .ok (ofPrefix block) := by
  have slash : block.chars.contains '/' = true := by
    rw [List.contains_eq_mem, decide_eq_true_eq, Prefix.chars]
    exact List.mem_append_right _ (List.mem_cons_self ..)
  rw [ofChars, if_pos slash, readPrefix, Prefix.ofChars?_chars]
  rfl

/-- **Exclusions are read back from their texts.**  That holds for the text of every exclusion, for
every two addresses with a hyphen and any blanks between and around them, and for every prefix, whose
text is read as the stretch from the lowest to the highest address of its block.  That stretch holds
the addresses that the prefix contains and no others. -/
theorem read_back_from_text :
    (∀ exclusion : Exclusion, ofString exclusion.text = .ok exclusion) ∧
      (∀ (first last : Address) (before behind before' behind' : String),
        Text.Blank before.toList → Text.Blank behind.toList → Text.Blank before'.toList →
        Text.Blank behind'.toList →
        ofString (before ++ first.text ++ behind ++ "-" ++ (before' ++ last.text ++ behind')) =
          .ok ⟨first, last⟩) ∧
      ∀ block : Prefix, ofString block.text = .ok ⟨block.network, block.broadcast⟩ ∧
        ∀ address, Address.Between block.network block.broadcast address ↔
          block.contains address = true := by
  refine ⟨fun exclusion => ?_, ?_, fun block => ⟨?_, fun _ => Prefix.between_iff_contains⟩⟩
  · rw [ofString, text, String.toList_ofList, ofChars_chars]
  · intro first last before behind before' behind' blank blank_behind blank' blank_behind'
    have hyphen : "-".toList = ['-'] := rfl
    have read := ofChars_stretch blank blank_behind blank' blank_behind' first last
    simp only [ofString, String.toList_append, Address.toList_text, hyphen]
    rw [List.append_assoc _ ['-'], List.singleton_append]
    exact read
  · rw [ofString, Prefix.text, String.toList_ofList, ofChars_block, ofPrefix]

/-- Two ends of different families are read with an ideographic space and a tab between them, and a
prefix with bits behind its length is read as its block. -/
theorem read_back_from_text_mixed :
    ofString "10.0.0.9\u3000-\t::ffff:10.0.0.5" =
        .ok ⟨.v4 0x0a000009, .v6 0xffff0a000005⟩ ∧
      ofString "2001:db8::1f/126" =
        .ok ⟨.v6 0x20010db800000000000000000000001c, .v6 0x20010db800000000000000000000001f⟩ := by
  obtain ⟨_, stretches, blocks⟩ := read_back_from_text
  constructor
  · have first : (Address.v4 0x0a000009).text = "10.0.0.9" := by decide
    have last : (Address.v6 0xffff0a000005).text = "::ffff:10.0.0.5" := by decide
    have read := stretches (.v4 0x0a000009) (.v6 0xffff0a000005) "" "\u3000" "\t" ""
    rw [first, last] at read
    have nothing : Text.Blank "".toList := fun _ member => absurd member List.not_mem_nil
    have wide : Text.Blank "\u3000".toList := List.forall_mem_singleton.mpr rfl
    have tab : Text.Blank "\t".toList := List.forall_mem_singleton.mpr rfl
    exact read nothing wide tab nothing
  · have read := (blocks ⟨.v6 0x20010db800000000000000000000001f, 126, by decide⟩).1
    have text : (Prefix.mk (.v6 0x20010db800000000000000000000001f) 126 (by decide)).text =
        "2001:db8::1f/126" := by decide
    rwa [text] at read

end Exclusion

end AddressPool
