import Fleet.Json.Reader
import Fleet.Json.Writer
import Fleet.Proofs.Digits

/-!
# JSON text written and read

Whatever value has a written form, its text is read back as the value. A written part is read with what
follows it left over, and each of its characters pays for one step of the reader's fuel.
-/

namespace Fleet.Json

open Fleet.Text

/-! ## Characters of a string -/

theorem hexValue?_digitChar {d : Nat} (h : d < 16) : hexValue? d.digitChar = some d :=
  (by decide : ∀ d < 16, hexValue? (Nat.digitChar d) = some d) d h

/-- Four hexadecimal digits tell a unit. -/
theorem escapeUnit_eq {n : Nat} (h : n < 0x10000) :
    ∃ a b c d, escapeUnit n = ['\\', 'u', a, b, c, d] ∧ hexUnit? a b c d = some n := by
  have hfill : fill 16 4 n = [(n / 16 / 16 / 16).digitChar, (n / 16 / 16 % 16).digitChar,
      (n / 16 % 16).digitChar, (n % 16).digitChar] := by
    rw [fill_succ (by decide) (by decide), fill_succ (by decide) (by decide),
      fill_succ (by decide) (by decide), fill_one (by omega)]
    rfl
  refine ⟨_, _, _, _, congrArg ('\\' :: 'u' :: ·) hfill, ?_⟩
  simp only [hexUnit?, hexValue?_digitChar (Nat.mod_lt _ (by decide : 16 > 0)),
    hexValue?_digitChar (show n / 16 / 16 / 16 < 16 by omega), Option.bind_eq_bind, Option.bind_some,
    Option.some.injEq]
  omega

/-- The pieces that a character is written as. -/
def pieces (c : Char) : List Piece :=
  if 0x20 ≤ c.toNat ∧ c.toNat < 0x7F then [.char c]
  else if c.toNat < 0x10000 then [.unit c.toNat]
  else [.unit (0xD800 + (c.toNat - 0x10000) / 0x400), .unit (0xDC00 + (c.toNat - 0x10000) % 0x400)]

section

variable {text rest : List Char} {found : List Piece}

theorem readPieces_plain {c : Char} (hquote : c ≠ '"') (hslash : c ≠ '\\') (hplain : 0x20 ≤ c.toNat)
    (hread : readPieces text = some (found, rest)) :
    readPieces (c :: text) = some (.char c :: found, rest) := by
  have hnot : ¬ (c.toNat < 0x20 ∨ c = '\\') := by
    rintro (hlow | heq)
    · omega
    · exact hslash heq
  rw [readPieces.eq_def]
  split
  case h_1 heq => cases heq
  case h_2 heq =>
    cases heq
    exact absurd rfl hquote
  case h_3 heq =>
    cases heq
    exact absurd rfl hslash
  case h_4 heq =>
    cases heq
    exact absurd rfl hslash
  case h_5 heq =>
    cases heq
    rw [if_neg hnot, hread]
    rfl

theorem readPieces_escapeUnit {n : Nat} (h : n < 0x10000) (hread : readPieces text = some (found, rest)) :
    readPieces (escapeUnit n ++ text) = some (.unit n :: found, rest) := by
  obtain ⟨a, b, c, d, hescape, hunit⟩ := escapeUnit_eq h
  rw [hescape]
  simp [readPieces, hunit, hread]

theorem toNat_lt (c : Char) : c.toNat < 0x110000 := by
  rcases c.valid with h | ⟨-, h⟩
  · exact Nat.lt_trans h (by decide)
  · exact h

/-- A written character is read as its pieces. -/
theorem readPieces_writeChar (c : Char) (hread : readPieces text = some (found, rest)) :
    readPieces (writeChar c ++ text) = some (pieces c ++ found, rest) := by
  have hbound := toNat_lt c
  unfold writeChar
  split
  · rename_i hquote
    subst hquote
    simp [readPieces, escaped?, pieces, hread]
  · split
    · rename_i hslash
      subst hslash
      simp [readPieces, escaped?, pieces, hread]
    · rename_i hquote hslash
      split
      · rename_i hplain
        rw [pieces, if_pos hplain]
        exact readPieces_plain hquote hslash hplain.1 hread
      · rename_i hplain
        simp only [pieces, hplain, if_false, escapeUnits]
        split
        · rename_i hfirst
          exact readPieces_escapeUnit hfirst hread
        · rename_i hfirst
          rw [List.append_assoc]
          exact readPieces_escapeUnit (by omega) (readPieces_escapeUnit (by omega) hread)

end

section

variable {found : List Piece} {text : List Char}

/-- A unit that is not half of a pair stands for itself, whatever follows. -/
theorem joinPieces_unit {n : Nat} (hlone : ¬ (0xD800 ≤ n ∧ n < 0xE000))
    (hjoin : joinPieces found = some text) :
    joinPieces (.unit n :: found) = some (Char.ofNat n :: text) := by
  have hhigh : ¬ (0xD800 ≤ n ∧ n < 0xDC00) := by omega
  have hlow : ¬ (0xDC00 ≤ n ∧ n < 0xE000) := by omega
  cases found with
  | nil =>
    rw [joinPieces.eq_def]
    simp only [if_neg hlone, hjoin, Option.map_some]
  | cons piece found =>
    cases piece with
    | char c =>
      rw [joinPieces.eq_def]
      simp only [if_neg hlone, hjoin, Option.map_some]
    | unit low => rw [joinPieces, if_neg hhigh, if_neg hlow, hjoin, Option.map_some]

/-- The pieces of a character are joined to it. -/
theorem joinPieces_pieces (c : Char) (hjoin : joinPieces found = some text) :
    joinPieces (pieces c ++ found) = some (c :: text) := by
  have hbound := toNat_lt c
  unfold pieces
  split
  · simp [joinPieces, hjoin]
  · split
    · have hlone : ¬ (0xD800 ≤ c.toNat ∧ c.toNat < 0xE000) := by
        have hvalid : c.toNat < 0xD800 ∨ 0xDFFF < c.toNat ∧ c.toNat < 0x110000 := c.valid
        omega
      rw [List.singleton_append, joinPieces_unit hlone hjoin, Char.ofNat_toNat]
    · have hhigh : 0xD800 ≤ 0xD800 + (c.toNat - 0x10000) / 0x400 ∧
          0xD800 + (c.toNat - 0x10000) / 0x400 < 0xDC00 := by omega
      have hlow : 0xDC00 ≤ 0xDC00 + (c.toNat - 0x10000) % 0x400 ∧
          0xDC00 + (c.toNat - 0x10000) % 0x400 < 0xE000 := by omega
      have hsum : 0x10000 + (0xD800 + (c.toNat - 0x10000) / 0x400 - 0xD800) * 0x400 +
          (0xDC00 + (c.toNat - 0x10000) % 0x400 - 0xDC00) = c.toNat := by omega
      simp only [List.cons_append, List.nil_append]
      rw [joinPieces, if_pos hhigh, if_pos hlow, hjoin, hsum, Char.ofNat_toNat, Option.map_some]

end

/-- A written string is read back, whatever follows it. -/
theorem readString_writeString (s : String) (rest : List Char) :
    readString (s.toList.flatMap writeChar ++ '"' :: rest) = some (some s, rest) := by
  obtain ⟨chars, rfl⟩ : ∃ chars, s = String.ofList chars := ⟨s.toList, String.ofList_toList.symm⟩
  obtain ⟨found, hread, hjoin⟩ : ∃ found,
      readPieces (chars.flatMap writeChar ++ '"' :: rest) = some (found, rest) ∧
        joinPieces found = some chars := by
    induction chars with
    | nil => exact ⟨[], rfl, rfl⟩
    | cons c chars ih =>
      obtain ⟨found, hread, hjoin⟩ := ih
      refine ⟨pieces c ++ found, ?_, joinPieces_pieces c hjoin⟩
      rw [List.flatMap_cons, List.append_assoc]
      exact readPieces_writeChar c hread
  rw [String.toList_ofList, readString, hread]
  simp [hjoin]

/-! ## Numbers -/

/-- What may follow a written value: nothing, or what separates and closes values. -/
def Closes (rest : List Char) : Prop :=
  ∀ c ∈ rest.head?, c = ',' ∨ c = ']' ∨ c = '\x7d'

theorem closes_nil : Closes [] := nofun

theorem closes_cons {c : Char} (h : c = ',' ∨ c = ']' ∨ c = '\x7d') (rest : List Char) :
    Closes (c :: rest) := by
  rintro _ ⟨⟩
  exact h

section

variable {rest : List Char}

/-- A number without a fraction ends where a value may end. -/
theorem Closes.ends_number (h : Closes rest) :
    rest.takeWhile Char.isDigit = [] ∧ takeDecimals rest = some ([], rest) ∧
      takeExponent rest = some ([], rest) := by
  cases rest with
  | nil => exact ⟨rfl, rfl, rfl⟩
  | cons c rest => rcases h c rfl with rfl | rfl | rfl <;> exact ⟨rfl, rfl, rfl⟩

/-- The digits of a number have no needless zero. -/
theorem takeWhole_toDigits (n : Nat) (hrest : rest.takeWhile Char.isDigit = []) :
    takeWhole (Nat.toDigits 10 n ++ rest) = some (Nat.toDigits 10 n, rest) := by
  rcases Nat.eq_zero_or_pos n with rfl | hpos
  · rfl
  · have hhead := head?_toDigits hpos
    have hrun : (Nat.toDigits 10 n ++ rest).takeWhile Char.isDigit = Nat.toDigits 10 n :=
      takeWhile_digits_append (fun _ => isDigit_of_mem_toDigits) hrest
    unfold takeWhole
    split
    · rename_i hzero
      obtain ⟨c, digits, heq, -⟩ := exists_toDigits_eq_cons n
      rw [heq] at hzero hhead
      cases hzero
      exact absurd rfl hhead
    · simp [hrun, Nat.toDigits_ne_nil]

/-- A written number is read back where a value may end. -/
theorem readNumber_writeInt (n : Int) (hrest : Closes rest) :
    readNumber ((writeInt n).toList ++ rest) = some (.int n, rest) := by
  obtain ⟨hdigits, hdecimals, hexponent⟩ := hrest.ends_number
  cases n with
  | ofNat n =>
    have hsign : takeMinus (Nat.toDigits 10 n ++ rest) = ([], Nat.toDigits 10 n ++ rest) := by
      obtain ⟨c, digits, heq, hc⟩ := exists_toDigits_eq_cons n
      rw [heq]
      unfold takeMinus
      split
      · rename_i hminus
        cases hminus
        cases hc
      · rfl
    simp [readNumber, writeInt, writeNat, hsign, takeWhole_toDigits n hdigits, hdecimals, hexponent]
  | negSucc n =>
    have hzero : Nat.toDigits 10 (n + 1) ≠ ['0'] := fun heq =>
      head?_toDigits (Nat.succ_pos n) (congrArg List.head? heq)
    simp [readNumber, writeInt, writeNat, takeMinus, takeWhole_toDigits (n + 1) hdigits, hdecimals, hexponent,
      hzero]
    rw [Int.negSucc_eq]
    omega

end

/-! ## Values -/

/-- Values with a written form of their own: whole numbers only, and no text that cannot be read. -/
inductive Writable : Json → Prop where
  | null : Writable .null
  | bool (value : Bool) : Writable (.bool value)
  | int (value : Int) : Writable (.int value)
  | str (value : String) : Writable (.str value)
  | arr {items : List Json} (h : ∀ item ∈ items, Writable item) : Writable (.arr items)
  | obj {members : List (String × Json)} (h : ∀ member ∈ members, Writable member.2) :
      Writable (.obj members)

/-- The text of a value is read back as the value, whatever follows that may follow a value. -/
def ReadsBack (value : Json) : Prop :=
  ∀ fuel rest, (writeValue value).length ≤ fuel → Closes rest →
    readValue fuel (writeValue value ++ rest) = some (value, rest)

theorem skipSpace_cons {c : Char} (h : isSpace c = false) (rest : List Char) :
    skipSpace (c :: rest) = c :: rest := by
  simp [skipSpace, h]

theorem isSpace_eq_false_of_isDigit {c : Char} (h : c.isDigit = true) : isSpace c = false := by
  refine Bool.eq_false_iff.2 fun hspace => ?_
  simp only [isSpace, Bool.or_eq_true, decide_eq_true_eq] at hspace
  rcases hspace with ((rfl | rfl) | rfl) | rfl <;> cases h

/-- A written number starts with a digit or a minus sign. -/
theorem exists_writeInt_eq_cons (n : Int) :
    ∃ c rest, (writeInt n).toList = c :: rest ∧ (c.isDigit = true ∨ c = '-') := by
  cases n with
  | ofNat n =>
    obtain ⟨c, digits, heq, hc⟩ := exists_toDigits_eq_cons n
    exact ⟨c, digits, by simpa [writeInt, writeNat] using heq, .inl hc⟩
  | negSucc n => exact ⟨'-', Nat.toDigits 10 (n + 1), by simp [writeInt, writeNat], .inr rfl⟩

/-- What starts with a digit or a minus sign is read as a number. -/
theorem readValue_of_number {c : Char} (hc : c.isDigit = true ∨ c = '-') (fuel : Nat) (rest : List Char) :
    readValue (fuel + 1) (c :: rest) = readNumber (c :: rest) := by
  have hspace : isSpace c = false := by
    rcases hc with hc | rfl
    · exact isSpace_eq_false_of_isDigit hc
    · rfl
  rw [readValue, skipSpace_cons hspace]
  split
  case h_7 => rfl
  all_goals
    rename_i heq
    cases heq
    rcases hc with hc | hc <;> cases hc

theorem readsBack_int (n : Int) : ReadsBack (.int n) := by
  intro fuel rest hfuel hrest
  obtain ⟨c, digits, heq, hc⟩ := exists_writeInt_eq_cons n
  have hnumber := readNumber_writeInt n hrest
  simp only [writeValue, heq] at hfuel hnumber ⊢
  cases fuel with
  | zero => cases hfuel
  | succ fuel => exact (readValue_of_number hc fuel _).trans hnumber

/-! ## Lists of values -/

/-- A written value starts with a character that is neither blank nor closes a list. -/
theorem writeValue_eq_cons {value : Json} (h : Writable value) :
    ∃ c rest, writeValue value = c :: rest ∧ isSpace c = false ∧ c ≠ ']' := by
  cases h with
  | null => exact ⟨_, _, rfl, rfl, by decide⟩
  | bool value => cases value <;> exact ⟨_, _, rfl, rfl, by decide⟩
  | int n =>
    obtain ⟨c, rest, heq, hc⟩ := exists_writeInt_eq_cons n
    refine ⟨c, rest, heq, ?_⟩
    rcases hc with hc | rfl
    · refine ⟨isSpace_eq_false_of_isDigit hc, ?_⟩
      rintro rfl
      cases hc
    · exact ⟨rfl, by decide⟩
  | str value => exact ⟨_, _, rfl, rfl, by decide⟩
  | arr => exact ⟨_, _, rfl, rfl, by decide⟩
  | obj => exact ⟨_, _, rfl, rfl, by decide⟩

/-- So does what is written of a list that is not empty. -/
theorem writeItems_eq_cons {items : List Json} (hne : items ≠ []) (h : ∀ item ∈ items, Writable item) :
    ∃ c rest, writeItems items = c :: rest ∧ isSpace c = false ∧ c ≠ ']' := by
  cases items with
  | nil => exact absurd rfl hne
  | cons item items =>
    obtain ⟨c, rest, heq, hc⟩ := writeValue_eq_cons (h item List.mem_cons_self)
    cases items with
    | nil => exact ⟨c, _, by rw [writeItems, heq, List.cons_append], hc⟩
    | cons next items =>
      refine ⟨c, rest ++ ',' :: writeItems (next :: items), ?_, hc⟩
      simp only [writeItems, heq, List.cons_append]

theorem readItems_writeItems {items : List Json} (hne : items ≠ []) (h : ∀ item ∈ items, ReadsBack item)
    {fuel : Nat} (hfuel : (writeItems items).length ≤ fuel) (rest : List Char) :
    readItems fuel (writeItems items ++ rest) = some (items, rest) := by
  induction items generalizing fuel with
  | nil => exact absurd rfl hne
  | cons item items ih =>
    obtain ⟨hitem, hitems⟩ := List.forall_mem_cons.1 h
    cases items with
    | nil =>
      simp only [writeItems, List.length_append, List.length_singleton, List.append_assoc,
        List.singleton_append] at hfuel ⊢
      obtain ⟨fuel, rfl⟩ : ∃ left, fuel = left + 1 := ⟨fuel - 1, by omega⟩
      rw [readItems, hitem fuel _ (by omega) (closes_cons (.inr (.inl rfl)) rest)]
      rfl
    | cons next items =>
      simp only [writeItems, List.length_append, List.length_cons, List.append_assoc,
        List.cons_append] at hfuel ⊢
      obtain ⟨fuel, rfl⟩ : ∃ left, fuel = left + 1 := ⟨fuel - 1, by omega⟩
      rw [readItems, hitem fuel _ (by omega) (closes_cons (.inl rfl) _)]
      have hleft : (writeItems (next :: items)).length ≤ fuel := by omega
      have hmore := ih (List.cons_ne_nil _ _) hitems hleft
      simp [skipSpace_cons (by rfl : isSpace ',' = false), hmore]

theorem writeMembers_eq_cons {members : List (String × Json)} (hne : members ≠ []) :
    ∃ rest, writeMembers members = '"' :: rest := by
  obtain ⟨member, members, rfl⟩ := List.exists_cons_of_ne_nil hne
  cases members <;> exact ⟨_, rfl⟩

theorem readMembers_writeMembers {members : List (String × Json)} (hne : members ≠ [])
    (h : ∀ member ∈ members, ReadsBack member.2) {fuel : Nat}
    (hfuel : (writeMembers members).length ≤ fuel) (rest : List Char) :
    readMembers fuel (writeMembers members ++ rest) =
      some (members.map fun member => (some member.1, member.2), rest) := by
  induction members generalizing fuel with
  | nil => exact absurd rfl hne
  | cons member members ih =>
    obtain ⟨name, value⟩ := member
    obtain ⟨hvalue, hmembers⟩ := List.forall_mem_cons.1 h
    replace hvalue : ReadsBack value := hvalue
    cases members with
    | nil =>
      simp only [writeMembers, writeString, List.length_append, List.append_assoc, List.cons_append,
        List.nil_append, List.length_cons] at hfuel ⊢
      obtain ⟨fuel, rfl⟩ : ∃ left, fuel = left + 1 := ⟨fuel - 1, by omega⟩
      have hread := hvalue fuel ('\x7d' :: rest) (by omega) (closes_cons (.inr (.inr rfl)) rest)
      simp [readMembers, skipSpace, isSpace, readString_writeString, hread]
    | cons next members =>
      simp only [writeMembers, writeString, List.length_append, List.append_assoc, List.cons_append,
        List.nil_append, List.length_cons] at hfuel ⊢
      obtain ⟨fuel, rfl⟩ : ∃ left, fuel = left + 1 := ⟨fuel - 1, by omega⟩
      have hread := hvalue fuel (',' :: (writeMembers (next :: members) ++ rest)) (by omega)
        (closes_cons (.inl rfl) _)
      have hleft : (writeMembers (next :: members)).length ≤ fuel := by omega
      have hmore := ih (List.cons_ne_nil _ _) hmembers hleft
      simp [readMembers, skipSpace, isSpace, readString_writeString, hread, hmore]

theorem ofMembers_map_some (members : List (String × Json)) :
    ofMembers (members.map fun member => (some member.1, member.2)) = .obj members := by
  have hnames : (members.map fun member => (some member.1, member.2)).mapM
      (fun member => member.1.map (·, member.2)) = some members := by
    induction members with
    | nil => rfl
    | cons member members ih => simp [List.mapM_cons, ih]
  rw [ofMembers, hnames]

/-! ## Whole values -/

theorem Writable.readsBack {value : Json} (h : Writable value) : ReadsBack value := by
  induction h with
  | int n => exact readsBack_int n
  | null =>
    rintro (_ | fuel) rest hfuel -
    · cases hfuel
    · rfl
  | bool value =>
    rintro (_ | fuel) rest hfuel -
    · cases value <;> cases hfuel
    · cases value <;> rfl
  | str s =>
    rintro (_ | fuel) rest hfuel -
    · cases hfuel
    · simp [writeValue, writeString, readValue, skipSpace, isSpace, readString_writeString, ofString]
  | @arr items h ih =>
    rintro (_ | fuel) rest hfuel -
    · cases hfuel
    · rcases eq_or_ne items [] with rfl | hne
      · rfl
      · obtain ⟨c, written, heq, hspace, hc⟩ := writeItems_eq_cons hne h
        have hleft : (writeItems items).length ≤ fuel := Nat.le_of_succ_le_succ hfuel
        have hread := readItems_writeItems hne ih hleft rest
        rw [heq, List.cons_append] at hread
        simp only [writeValue, heq, List.cons_append, readValue,
          skipSpace_cons (by rfl : isSpace '[' = false), skipSpace_cons hspace]
        split
        · rename_i hclosed
          cases hclosed
          exact absurd rfl hc
        · rw [hread, Option.map_some]
  | @obj members h ih =>
    rintro (_ | fuel) rest hfuel -
    · cases hfuel
    · rcases eq_or_ne members [] with rfl | hne
      · rfl
      · obtain ⟨written, heq⟩ := writeMembers_eq_cons hne
        have hleft : (writeMembers members).length ≤ fuel := Nat.le_of_succ_le_succ hfuel
        have hread := readMembers_writeMembers hne ih hleft rest
        rw [heq, List.cons_append] at hread
        simp only [writeValue, heq, List.cons_append, readValue,
          skipSpace_cons (by rfl : isSpace '\x7b' = false), skipSpace_cons (by rfl : isSpace '"' = false)]
        split
        · rename_i hclosed
          cases hclosed
        · rw [hread, Option.map_some, ofMembers_map_some]

/-- What is written is read back. -/
theorem read?_write {value : Json} (h : Writable value) : read? value.write = some value := by
  have hread (fuel : Nat) (hfuel : (writeValue value).length ≤ fuel) :
      readValue fuel (writeValue value) = some (value, []) := by
    have hread := h.readsBack fuel [] hfuel closes_nil
    rwa [List.append_nil] at hread
  rw [read?, write, String.toList_ofList]
  exact Option.bind_eq_some_iff.2 ⟨(value, []), hread _ (by omega), if_pos rfl⟩

end Fleet.Json
