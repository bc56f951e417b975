import Mathlib.Algebra.Group.Nat.Defs
import PatternForge.Number.Numeral
import PatternForge.Yaml.Word

/-! # Rows of digits

What a row of digits of the basic Latin range is read as. Such a row is a whole number, and the only
reason not to read it is that it is too long (`Numeral.longestDecimal_lt_of_digits`). In a base the
value of so many digits is below the power of the base (`Numeral.valueOf_lt`).
-/

namespace PatternForge

/-- What a partial function makes of a list is as long, and each part of it comes of a part. -/
theorem exists_of_mapM {α β : Type} {part : α → Option β} {items : List α} {results : List β}
    (made : items.mapM part = some results) :
    results.length = items.length ∧
      ∀ result ∈ results, ∃ item ∈ items, part item = some result := by
  induction items generalizing results with
  | nil =>
    cases made
    exact ⟨rfl, nofun⟩
  | cons item items ih =>
    rw [List.mapM_cons] at made
    obtain ⟨first, here, others⟩ := Option.bind_eq_some_iff.mp made
    obtain ⟨rest, there, same⟩ := Option.bind_eq_some_iff.mp others
    cases same
    obtain ⟨length, each⟩ := ih there
    refine ⟨congrArg (· + 1) length, ?_⟩
    intro result member
    rcases List.mem_cons.mp member with rfl | member
    · exact ⟨item, List.mem_cons_self, here⟩
    · obtain ⟨origin, among, is⟩ := each result member
      exact ⟨origin, List.mem_cons_of_mem _ among, is⟩

/-- A partial function that takes every part of a list takes the list. -/
theorem exists_mapM {α β : Type} {part : α → Option β} {items : List α}
    (each : ∀ item ∈ items, (part item).isSome) : ∃ results, items.mapM part = some results := by
  induction items with
  | nil => exact ⟨[], rfl⟩
  | cons item items ih =>
    obtain ⟨first, here⟩ := Option.isSome_iff_exists.mp (each item List.mem_cons_self)
    obtain ⟨rest, there⟩ := ih fun other member => each other (List.mem_cons_of_mem _ member)
    refine ⟨first :: rest, ?_⟩
    rw [List.mapM_cons, here, there]
    rfl

theorem Numeral.valueOf_lt {base : Nat} {digits : List Nat}
    (below : ∀ digit ∈ digits, digit < base) : valueOf base digits < base ^ digits.length := by
  have grows (value : Nat) : digits.foldl (fun value digit => value * base + digit) value <
      (value + 1) * base ^ digits.length := by
    induction digits generalizing value with
    | nil => exact Nat.lt_of_lt_of_eq (Nat.lt_succ_self value) (Nat.mul_one _).symm
    | cons digit digits ih =>
      have first : digit < base := below digit List.mem_cons_self
      have rest := ih (fun other member => below other (List.mem_cons_of_mem _ member))
        (value * base + digit)
      rw [List.foldl_cons, List.length_cons, Nat.pow_succ', ← Nat.mul_assoc]
      refine Nat.lt_of_lt_of_le rest (Nat.mul_le_mul_right _ ?_)
      rw [Nat.add_mul, Nat.one_mul]
      omega
  have whole := grows 0
  rw [Nat.zero_add, Nat.one_mul] at whole
  exact whole

theorem mem_digits_of_isDigit {char : Char} (digit : char.isDigit) :
    char ∈ "0123456789".toList := by
  have each : ∀ number < 58, 48 ≤ number → Char.ofNat number ∈ "0123456789".toList := by decide
  have reach : 48 ≤ char.toNat ∧ char.toNat < 58 := by
    simp only [Char.isDigit, Bool.and_eq_true, decide_eq_true_eq] at digit
    obtain ⟨lower, upper⟩ := digit
    exact ⟨lower, Nat.lt_succ_of_le upper⟩
  rw [← Char.ofNat_toNat char]
  exact each _ reach.2 reach.1

theorem Text.trim_of_none {drop : CodePoint → Bool} {text : Text}
    (none : ∀ point ∈ text, drop point = false) : text.trim drop = text := by
  have same (text : Text) (none : ∀ point ∈ text, drop point = false) :
      text.dropWhile drop = text := by
    cases text with
    | nil => rfl
    | cons point rest =>
      have stays : ¬drop point := Bool.not_eq_true _ ▸ none point List.mem_cons_self
      exact List.dropWhile_cons_of_neg stays
  rw [trim, same text none, same _ fun point member => none point (List.mem_reverse.mp member),
    List.reverse_reverse]

/-- A row of Latin digits is read as a whole number unless it is too long. -/
theorem Numeral.longestDecimal_lt_of_digits {chars : List Char} (row : chars.all Char.isDigit)
    (some : chars ≠ []) (unread : readInteger? 10 (Text.ofChars chars) = none) :
    longestDecimal < chars.length := by
  have digit (point : CodePoint) (member : point ∈ Text.ofChars chars) :
      point ∈ Text.ofString "0123456789" := by
    obtain ⟨char, among, rfl⟩ := List.mem_map.mp member
    exact List.mem_map_of_mem (mem_digits_of_isDigit (List.all_eq_true.mp row char among))
  have plainly : plain (Text.ofChars chars) = Text.ofChars chars := by
    have visible : ∀ point ∈ Text.ofString "0123456789", point.isWhiteSpace = false := by decide
    rw [plain, Text.trim_of_none fun point member => visible point (digit point member)]
    refine (List.map_congr_left fun point member => ?_).trans (List.map_id _)
    have latin := digit point member
    clear member
    revert point
    decide
  have unsigned : signed (Text.ofChars chars) = (false, Text.ofChars chars) := by
    have bare : ∀ point ∈ Text.ofString "0123456789",
        point ≠ .ofChar '-' ∧ point ≠ .ofChar '+' := by decide
    cases whole : Text.ofChars chars with
    | nil => rfl
    | cons point rest =>
      obtain ⟨minus, plus⟩ := bare point (digit point (whole ▸ List.mem_cons_self))
      rw [signed, if_neg minus, if_neg plus]
  have decimal : ∀ point ∈ Text.ofString "0123456789",
      (point.latinDigit?.filter (· < 10)).isSome := by decide
  obtain ⟨digits, read⟩ := exists_mapM fun point member => decimal point (digit point member)
  have length : digits.length = chars.length := (exists_of_mapM read).1.trans (List.length_map _)
  have numeral : digits? 10 (Text.ofChars chars) = Option.some digits := by
    have occupied : ¬(Text.ofChars chars).isEmpty := by
      rw [List.isEmpty_iff]
      exact fun empty => some (List.map_eq_nil_iff.mp empty)
    rw [digits?, if_neg occupied, read]
  rw [readInteger?, plainly, unsigned] at unread
  change (digits? 10 (Text.ofChars chars) >>= fun digits => _) = none at unread
  rw [numeral] at unread
  refine Decidable.byContradiction fun short => ?_
  rw [← length] at short
  change (if _ then _ else _) = none at unread
  rw [if_neg fun both => short both.2] at unread
  cases unread

theorem Yaml.hexValue?_lt {char : Char} {value : Nat} (read : hexValue? char = some value) :
    value < 16 := by
  rw [hexValue?] at read
  exact of_decide_eq_true (Option.filter_eq_some_iff.mp read).2

end PatternForge
