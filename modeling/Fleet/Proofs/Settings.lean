import Fleet.Proofs.Digits
import Fleet.Settings
import Fleet.Table.Lookup
import Fleet.Wire.Answer
import Mathlib.Data.List.TakeWhile

/-!
# Settings as the environment says them

A variable says a number if it holds the digits of that number, perhaps behind a plus sign and between
blanks. The settings read from an environment are exactly what its variables say, and what they leave
unsaid has its default; the first variable that says no number that fits is to blame if there are no
settings. Settings that are written out are read back as they were.
-/

namespace Fleet

open Fleet.Text

/-! ## Numbers between blanks -/

namespace Text

/-- A text is its trimmed form between blanks. -/
theorem exists_blanks_around_trim (text : String) :
    ∃ before after, text.toList = before ++ (trim text).toList ++ after ∧
      ∀ c ∈ before ++ after, isBlank c = true := by
  refine ⟨text.toList.takeWhile isBlank,
    ((text.toList.dropWhile isBlank).reverse.takeWhile isBlank).reverse, ?_, ?_⟩
  · rw [trim, String.toList_ofList, List.append_assoc, ← List.reverse_append,
      List.takeWhile_append_dropWhile, List.reverse_reverse, List.takeWhile_append_dropWhile]
  · intro c hc
    rcases List.mem_append.1 hc with hc | hc
    · exact List.mem_takeWhile_imp hc
    · exact List.mem_takeWhile_imp (List.mem_reverse.1 hc)

/-- What has no blanks in it is the trimmed form of itself between blanks. -/
theorem trim_of_blanks_around {text : String} {before core after : List Char}
    (htext : text.toList = before ++ core ++ after) (haround : ∀ c ∈ before ++ after, isBlank c = true)
    (hcore : ∀ c ∈ core, isBlank c = false) (hne : core ≠ []) : trim text = String.ofList core := by
  have hdrop : ∀ (blanks rest : List Char) {c : Char}, (∀ c ∈ blanks, isBlank c = true) →
      isBlank c = false → (blanks ++ c :: rest).dropWhile isBlank = c :: rest := by
    intro blanks rest c hblanks hc
    rw [List.dropWhile_append_of_pos hblanks, List.dropWhile_cons_of_neg (by simp [hc])]
  obtain ⟨hbefore, hafter⟩ := List.forall_mem_append.1 haround
  obtain ⟨first, others, rfl⟩ := List.exists_cons_of_ne_nil hne
  have hfront : text.toList.dropWhile isBlank = first :: others ++ after := by
    rw [htext, List.append_assoc]
    exact hdrop before (others ++ after) hbefore (hcore first List.mem_cons_self)
  obtain ⟨last, hothers⟩ : ∃ last rest, (first :: others).reverse = last :: rest :=
    List.exists_cons_of_ne_nil (by simp)
  obtain ⟨rest, hlast⟩ := hothers
  have hback : (first :: others ++ after).reverse.dropWhile isBlank = (first :: others).reverse := by
    rw [List.reverse_append, hlast]
    refine hdrop after.reverse rest (fun c hc => hafter c (List.mem_reverse.1 hc)) (hcore last ?_)
    exact List.mem_reverse.1 (hlast ▸ List.mem_cons_self)
  rw [trim, hfront, hback, List.reverse_reverse]

end Text

/-- A text says a number: one or more digits with that value, after at most one plus sign, and nothing but
blanks around. -/
def Says (text : String) (n : Nat) : Prop :=
  ∃ before sign digits after, text.toList = before ++ (sign ++ digits) ++ after ∧
    (∀ c ∈ before ++ after, isBlank c = true) ∧ (sign = [] ∨ sign = ['+']) ∧
    digits ≠ [] ∧ (∀ c ∈ digits, c.isDigit = true) ∧
    n = Nat.ofDigits 10 (digits.map digitValue).reverse

theorem readDigits?_eq_some_iff {text : List Char} {n : Nat} :
    readDigits? text = some n ↔ text ≠ [] ∧ (∀ c ∈ text, c.isDigit = true) ∧ n = ofDigits text := by
  simp only [readDigits?, Option.ite_none_right_eq_some, Option.some.injEq, List.all_eq_true, and_assoc,
    @eq_comm _ n]

theorem readNat?_eq_some_iff {text : String} {n : Nat} :
    readNat? text = some n ↔ ∃ sign digits, text.toList = sign ++ digits ∧ (sign = [] ∨ sign = ['+']) ∧
      digits ≠ [] ∧ (∀ c ∈ digits, c.isDigit = true) ∧ n = ofDigits digits := by
  unfold readNat?
  constructor
  · intro h
    split at h
    · rename_i digits htext
      exact ⟨['+'], digits, htext, .inr rfl, readDigits?_eq_some_iff.1 h⟩
    · exact ⟨[], text.toList, rfl, .inl rfl, readDigits?_eq_some_iff.1 h⟩
  · rintro ⟨sign, digits, htext, rfl | rfl, hdigits⟩
    · split
      · -- A run of digits does not start with a plus sign.
        rename_i rest hplus
        have hmem : '+' ∈ digits := by
          rw [show digits = '+' :: rest from htext.symm.trans hplus]
          exact List.mem_cons_self
        exact absurd (hdigits.2.1 '+' hmem) (by decide)
      · rw [htext]
        exact readDigits?_eq_some_iff.2 hdigits
    · rw [htext]
      exact readDigits?_eq_some_iff.2 hdigits

/-- A text is read as the number that it says, if that fits sixty-four bits. -/
theorem readWord?_trim_eq_some_iff {text : String} {n : Nat} :
    readWord? (trim text) = some n ↔ Says text n ∧ n < 2 ^ 64 := by
  simp only [readWord?, Option.filter_eq_some_iff, decide_eq_true_eq]
  refine and_congr ?_ Iff.rfl
  rw [readNat?_eq_some_iff]
  constructor
  · rintro ⟨sign, digits, htrim, hsign, hne, hdigits, rfl⟩
    obtain ⟨before, after, htext, haround⟩ := exists_blanks_around_trim text
    exact ⟨before, sign, digits, after, htrim ▸ htext, haround, hsign, hne, hdigits, ofDigits_eq_sum _⟩
  · rintro ⟨before, sign, digits, after, htext, haround, hsign, hne, hdigits, rfl⟩
    have hcore : ∀ c ∈ sign ++ digits, isBlank c = false := by
      intro c hc
      rcases List.mem_append.1 hc with hc | hc
      · rcases hsign with rfl | rfl
        · cases hc
        · rw [List.mem_singleton.1 hc]
          decide
      · exact isBlank_eq_false_of_isDigit (hdigits c hc)
    refine ⟨sign, digits, ?_, hsign, hne, hdigits, (ofDigits_eq_sum _).symm⟩
    rw [trim_of_blanks_around htext haround hcore (by simp [hne]), String.toList_ofList]

/-- A number in decimal, after so many zeros. -/
def spelled (zeros n : Nat) : String :=
  String.ofList (List.replicate zeros '0' ++ Nat.toDigits 10 n)

/-- A number that is spelled out is said, whatever zeros stand in front of it. -/
theorem says_spelled (zeros n : Nat) : Says (spelled zeros n) n := by
  refine ⟨[], [], List.replicate zeros '0' ++ Nat.toDigits 10 n, [], ?_, nofun, .inl rfl, ?_,
    fun c => isDigit_of_mem_zeros_append, ?_⟩
  · rw [spelled, String.toList_ofList, List.nil_append, List.nil_append, List.append_nil]
  · simp [Nat.toDigits_ne_nil]
  · rw [← ofDigits_eq_sum, ofDigits_zeros_append]

@[simp] theorem Duration.wholeSeconds_ofSeconds (n : Nat) : (ofSeconds n).wholeSeconds = n :=
  Nat.mul_div_cancel n (by decide)

namespace Settings

/-! ## What an environment asks for -/

/-- A variable that can be taken as it is: it is not set, or it says a number that fits, and one that is
not zero if the capacity of the queue is meant. -/
def Acceptable (env : Environment) (variableName : String) : Prop :=
  ∀ text, env.get? variableName = some text →
    ∃ n, Says text n ∧ n < 2 ^ 64 ∧ (variableName = capacityVariable → n ≠ 0)

/-- What can be wrong with a variable. -/
inductive Fault (env : Environment) (variableName : String) : Failure → Prop
  /-- It is set, but says no number that fits. -/
  | unreadable (text : String) (hset : env.get? variableName = some text)
      (hsaid : ∀ n, Says text n → 2 ^ 64 ≤ n) : Fault env variableName (.badSetting variableName text)
  /-- It is to leave the queue without room. -/
  | roomless (text : String) (hset : env.get? variableName = some text) (hsaid : Says text 0)
      (hcapacity : variableName = capacityVariable) :
      Fault env variableName (.noQueueRoom variableName)

/-- The value that a variable gives to a setting: what comes of the number that it says, or the default if
it is not set. -/
def Gives {α : Type} (env : Environment) (variableName : String) (base : α) (ofNumber : Nat → α)
    (value : α) : Prop :=
  match env.get? variableName with
  | none => value = base
  | some text => ∃ n, Says text n ∧ n < 2 ^ 64 ∧ value = ofNumber n

/-- The settings that an environment asks for. -/
structure Asked (env : Environment) (settings : Settings) : Prop where
  grace : Gives env graceVariable (default : Settings).moveGrace .ofSeconds settings.moveGrace
  termination : Gives env terminationVariable (default : Settings).terminationTimeout .ofSeconds
    settings.terminationTimeout
  capacity : Gives env capacityVariable (default : Settings).queueCapacity id settings.queueCapacity
  room : settings.queueCapacity ≠ 0
  admission : settings.admissionTimeout = (default : Settings).admissionTimeout

/-- Settings that an environment can ask for. -/
structure Expressible (settings : Settings) : Prop where
  grace : ∃ n, n < 2 ^ 64 ∧ settings.moveGrace = .ofSeconds n
  termination : ∃ n, n < 2 ^ 64 ∧ settings.terminationTimeout = .ofSeconds n
  capacity : settings.queueCapacity < 2 ^ 64
  room : settings.queueCapacity ≠ 0
  admission : settings.admissionTimeout = (default : Settings).admissionTimeout

/-- The environment that spells settings out, each number in decimal after so many zeros. -/
def toEnvironment (zeros : Nat) (settings : Settings) : Environment :=
  .ofList [(graceVariable, spelled zeros settings.moveGrace.wholeSeconds),
    (terminationVariable, spelled zeros settings.terminationTimeout.wholeSeconds),
    (capacityVariable, spelled zeros settings.queueCapacity)]

/-! ## Reading a variable -/

section

variable {env : Environment} {variableName : String}

theorem readVariable_of_unset (h : env.get? variableName = none) :
    readVariable env variableName = .ok none := by
  rw [readVariable, h]

/-- A variable that is set is read as the number that it says, if that fits; otherwise it is to blame. -/
theorem readVariable_of_set {text : String} (h : env.get? variableName = some text) :
    (∃ n, Says text n ∧ n < 2 ^ 64 ∧ readVariable env variableName = .ok (some n)) ∨
    (∀ n, Says text n → 2 ^ 64 ≤ n) ∧
      readVariable env variableName = .error (.badSetting variableName text) := by
  cases hread : readWord? (trim text) with
  | some n =>
    obtain ⟨hsaid, hfits⟩ := readWord?_trim_eq_some_iff.1 hread
    exact .inl ⟨n, hsaid, hfits, by rw [readVariable, h]; simp only [hread]⟩
  | none =>
    refine .inr ⟨fun n hsaid => ?_, by rw [readVariable, h]; simp only [hread]⟩
    by_contra hfits
    rw [readWord?_trim_eq_some_iff.2 ⟨hsaid, Nat.lt_of_not_le hfits⟩] at hread
    cases hread

theorem readVariable_eq_some_iff {n : Nat} :
    readVariable env variableName = .ok (some n) ↔
      ∃ text, env.get? variableName = some text ∧ Says text n ∧ n < 2 ^ 64 := by
  constructor
  · intro h
    cases hset : env.get? variableName with
    | none =>
      rw [readVariable_of_unset hset] at h
      cases h
    | some text =>
      rcases readVariable_of_set hset with ⟨m, hsaid, hfits, hm⟩ | ⟨-, herror⟩
      · rw [hm] at h
        cases h
        exact ⟨text, rfl, hsaid, hfits⟩
      · rw [herror] at h
        cases h
  · rintro ⟨text, hset, hsaid⟩
    rw [readVariable, hset]
    simp only [readWord?_trim_eq_some_iff.2 hsaid]

/-- A variable can be taken if it is read, and the capacity not as zero. -/
theorem acceptable_iff :
    Acceptable env variableName ↔ ∃ number, readVariable env variableName = .ok number ∧
      (variableName = capacityVariable → number ≠ some 0) := by
  cases hset : env.get? variableName with
  | none =>
    refine iff_of_true ?_ ⟨none, readVariable_of_unset hset, fun _ => nofun⟩
    intro text htext
    rw [hset] at htext
    cases htext
  | some text =>
    constructor
    · intro h
      obtain ⟨n, hsaid, hfits, hroom⟩ := h text hset
      refine ⟨some n, readVariable_eq_some_iff.2 ⟨text, hset, hsaid, hfits⟩, ?_⟩
      rintro hcapacity ⟨⟩
      exact hroom hcapacity rfl
    · rintro ⟨number, hread, hroom⟩ other hother
      obtain rfl : text = other := Option.some.inj (hset.symm.trans hother)
      rcases readVariable_of_set hset with ⟨n, hsaid, hfits, hn⟩ | ⟨-, herror⟩
      · rw [hn] at hread
        cases hread
        exact ⟨n, hsaid, hfits, fun hcapacity hzero => hroom hcapacity (congrArg some hzero)⟩
      · rw [herror] at hread
        cases hread

theorem fault_iff {failure : Failure} :
    Fault env variableName failure ↔ readVariable env variableName = .error failure ∨
      readVariable env variableName = .ok (some 0) ∧ variableName = capacityVariable ∧
        failure = .noQueueRoom variableName := by
  constructor
  · rintro (⟨text, hset, hsaid⟩ | ⟨text, hset, hsaid, hcapacity⟩)
    · rcases readVariable_of_set hset with ⟨n, hn, hfits, -⟩ | ⟨-, herror⟩
      · exact absurd (hsaid n hn) (Nat.not_le_of_lt hfits)
      · exact .inl herror
    · exact .inr ⟨readVariable_eq_some_iff.2 ⟨text, hset, hsaid, by decide⟩, hcapacity, rfl⟩
  · rintro (herror | ⟨hzero, hcapacity, rfl⟩)
    · cases hset : env.get? variableName with
      | none =>
        rw [readVariable_of_unset hset] at herror
        cases herror
      | some text =>
        rcases readVariable_of_set hset with ⟨n, -, -, hn⟩ | ⟨hsaid, hfailed⟩
        · rw [hn] at herror
          cases herror
        · rw [hfailed] at herror
          cases herror
          exact .unreadable text hset hsaid
    · obtain ⟨text, hset, hsaid, -⟩ := readVariable_eq_some_iff.1 hzero
      exact .roomless text hset hsaid hcapacity

theorem gives_iff {α : Type} {base value : α} {ofNumber : Nat → α} :
    Gives env variableName base ofNumber value ↔ ∃ number,
      readVariable env variableName = .ok number ∧ value = (number.map ofNumber).getD base := by
  unfold Gives
  cases hset : env.get? variableName with
  | none =>
    rw [readVariable_of_unset hset]
    exact ⟨fun h => ⟨none, rfl, h⟩, fun ⟨_, hread, h⟩ => by cases hread; exact h⟩
  | some text =>
    constructor
    · rintro ⟨n, hsaid, hfits, rfl⟩
      exact ⟨some n, readVariable_eq_some_iff.2 ⟨text, hset, hsaid, hfits⟩, rfl⟩
    · rintro ⟨number, hread, rfl⟩
      rcases readVariable_of_set hset with ⟨n, hsaid, hfits, hn⟩ | ⟨-, herror⟩
      · rw [hn] at hread
        cases hread
        exact ⟨n, hsaid, hfits, rfl⟩
      · rw [herror] at hread
        cases hread

end

/-! ## Reading all of them -/

section

variable {env : Environment}

/-- The settings for the numbers that were read. -/
def ofNumbers (grace termination capacity : Option Nat) : Settings :=
  { (default : Settings) with
    moveGrace := (grace.map Duration.ofSeconds).getD (default : Settings).moveGrace
    terminationTimeout := (termination.map Duration.ofSeconds).getD (default : Settings).terminationTimeout
    queueCapacity := (capacity.map id).getD (default : Settings).queueCapacity }

theorem ofEnvironment_eq {grace termination capacity : Option Nat}
    (hgrace : readVariable env graceVariable = .ok grace)
    (htermination : readVariable env terminationVariable = .ok termination)
    (hcapacity : readVariable env capacityVariable = .ok capacity) :
    ofEnvironment env = if capacity = some 0 then .error (.noQueueRoom capacityVariable)
      else .ok (ofNumbers grace termination capacity) := by
  unfold ofEnvironment
  rw [hgrace, htermination, hcapacity]
  split
  · rename_i hzero
    rw [hzero]
    rfl
  · rename_i hroom
    simp only [bind, Except.bind, if_neg hroom, ofNumbers, Option.map_id_fun]
    rfl

theorem asked_iff {settings : Settings} :
    Asked env settings ↔ ∃ grace termination capacity, readVariable env graceVariable = .ok grace ∧
      readVariable env terminationVariable = .ok termination ∧
      readVariable env capacityVariable = .ok capacity ∧ capacity ≠ some 0 ∧
      settings = ofNumbers grace termination capacity := by
  constructor
  · rintro ⟨hgrace, htermination, hcapacity, hroom, hadmission⟩
    obtain ⟨grace, hgrace, hmove⟩ := gives_iff.1 hgrace
    obtain ⟨termination, htermination, hwait⟩ := gives_iff.1 htermination
    obtain ⟨capacity, hcapacity, hqueue⟩ := gives_iff.1 hcapacity
    refine ⟨grace, termination, capacity, hgrace, htermination, hcapacity, ?_, ?_⟩
    · rintro rfl
      exact hroom hqueue
    · cases settings
      simp only at hmove hwait hqueue hadmission
      rw [hmove, hwait, hqueue, hadmission]
      rfl
  · rintro ⟨grace, termination, capacity, hgrace, htermination, hcapacity, hroom, rfl⟩
    refine ⟨gives_iff.2 ⟨grace, hgrace, rfl⟩, gives_iff.2 ⟨termination, htermination, rfl⟩,
      gives_iff.2 ⟨capacity, hcapacity, rfl⟩, ?_, rfl⟩
    cases capacity with
    | none => exact (by decide : (default : Settings).queueCapacity ≠ 0)
    | some n => exact fun hzero => hroom (congrArg some hzero)

theorem ofEnvironment_eq_ok_iff {settings : Settings} :
    ofEnvironment env = .ok settings ↔ Asked env settings := by
  rw [asked_iff]
  constructor
  · intro h
    cases hgrace : readVariable env graceVariable with
    | error first => simp [ofEnvironment, hgrace, bind, Except.bind] at h
    | ok grace =>
      cases htermination : readVariable env terminationVariable with
      | error second => simp [ofEnvironment, hgrace, htermination, bind, Except.bind] at h
      | ok termination =>
        cases hcapacity : readVariable env capacityVariable with
        | error third => simp [ofEnvironment, hgrace, htermination, hcapacity, bind, Except.bind] at h
        | ok capacity =>
          rw [ofEnvironment_eq hgrace htermination hcapacity] at h
          split at h
          · cases h
          · rename_i hroom
            cases h
            exact ⟨grace, termination, capacity, rfl, rfl, rfl, hroom, rfl⟩
  · rintro ⟨grace, termination, capacity, hgrace, htermination, hcapacity, hroom, rfl⟩
    rw [ofEnvironment_eq hgrace htermination hcapacity, if_neg hroom]

/-- The settings are refused for the first variable that is at fault. -/
theorem ofEnvironment_eq_error_iff {failure : Failure} :
    ofEnvironment env = .error failure ↔
      Fault env graceVariable failure ∨ Acceptable env graceVariable ∧
        (Fault env terminationVariable failure ∨ Acceptable env terminationVariable ∧
          Fault env capacityVariable failure) := by
  have hgraceName : graceVariable ≠ capacityVariable := by decide
  have hterminationName : terminationVariable ≠ capacityVariable := by decide
  simp only [fault_iff, acceptable_iff]
  cases hgrace : readVariable env graceVariable with
  | error first => simp [ofEnvironment, hgrace, bind, Except.bind]
  | ok grace =>
    cases htermination : readVariable env terminationVariable with
    | error second => simp [ofEnvironment, hgrace, htermination, hgraceName, bind, Except.bind]
    | ok termination =>
      cases hcapacity : readVariable env capacityVariable with
      | error third =>
        simp [ofEnvironment, hgrace, htermination, hcapacity, hgraceName, hterminationName, bind,
          Except.bind]
      | ok capacity =>
        rw [ofEnvironment_eq hgrace htermination hcapacity]
        by_cases hzero : capacity = some 0
        · simp [hzero, hgraceName, hterminationName, eq_comm]
        · simp [hzero, hgraceName, hterminationName]

theorem first_fault_iff {failure : Failure} :
    (∃ earlier variableName later, variableNames = earlier ++ variableName :: later ∧
      (∀ passed ∈ earlier, Acceptable env passed) ∧ Fault env variableName failure) ↔
      Fault env graceVariable failure ∨ Acceptable env graceVariable ∧
        (Fault env terminationVariable failure ∨ Acceptable env terminationVariable ∧
          Fault env capacityVariable failure) := by
  constructor
  · rintro ⟨earlier, variableName, later, hsplit, hearlier, hfault⟩
    rcases earlier with _ | ⟨first, _ | ⟨second, _ | ⟨third, rest⟩⟩⟩ <;>
      simp only [variableNames, List.nil_append, List.cons_append, List.cons.injEq] at hsplit
    · obtain ⟨rfl, -⟩ := hsplit
      exact .inl hfault
    · obtain ⟨rfl, rfl, -⟩ := hsplit
      exact .inr ⟨hearlier _ (by simp), .inl hfault⟩
    · obtain ⟨rfl, rfl, rfl, -⟩ := hsplit
      exact .inr ⟨hearlier _ (by simp), .inr ⟨hearlier _ (by simp), hfault⟩⟩
    · obtain ⟨-, -, -, hrest⟩ := hsplit
      simp at hrest
  · rintro (hfault | ⟨hgrace, hfault | ⟨htermination, hfault⟩⟩)
    · exact ⟨[], _, _, rfl, nofun, hfault⟩
    · exact ⟨[graceVariable], _, _, rfl, by simpa using hgrace, hfault⟩
    · exact ⟨[graceVariable, terminationVariable], _, _, rfl, by simp [hgrace, htermination], hfault⟩

theorem exists_ofEnvironment_iff :
    (∃ settings, ofEnvironment env = .ok settings) ↔
      ∀ variableName ∈ variableNames, Acceptable env variableName := by
  simp only [ofEnvironment_eq_ok_iff, asked_iff, variableNames, List.forall_mem_cons, acceptable_iff]
  constructor
  · rintro ⟨_, grace, termination, capacity, hgrace, htermination, hcapacity, hroom, -⟩
    exact ⟨⟨grace, hgrace, fun h => absurd h (by decide)⟩,
      ⟨termination, htermination, fun h => absurd h (by decide)⟩,
      ⟨capacity, hcapacity, fun _ => hroom⟩, nofun⟩
  · rintro ⟨⟨grace, hgrace, -⟩, ⟨termination, htermination, -⟩, ⟨capacity, hcapacity, hroom⟩, -⟩
    exact ⟨_, grace, termination, capacity, hgrace, htermination, hcapacity, hroom trivial, rfl⟩

end

/-! ## Writing settings out -/

theorem Gives.expressible {env : Environment} {variableName : String} {base value : Duration} {n : Nat}
    (h : Gives env variableName base .ofSeconds value) (hn : n < 2 ^ 64) (hbase : base = .ofSeconds n) :
    ∃ seconds, seconds < 2 ^ 64 ∧ value = .ofSeconds seconds := by
  unfold Gives at h
  split at h
  · exact ⟨n, hn, h.trans hbase⟩
  · obtain ⟨seconds, -, hfits, hvalue⟩ := h
    exact ⟨seconds, hfits, hvalue⟩

/-- What an environment asks for can be spelled out. -/
theorem Asked.expressible {env : Environment} {settings : Settings} (h : Asked env settings) :
    settings.Expressible where
  grace := h.grace.expressible (by decide : 180 < 2 ^ 64) rfl
  termination := h.termination.expressible (by decide : 5 < 2 ^ 64) rfl
  capacity := by
    have hcapacity := h.capacity
    unfold Gives at hcapacity
    split at hcapacity
    · rw [hcapacity]
      decide
    · obtain ⟨n, -, hfits, hvalue⟩ := hcapacity
      exact hvalue ▸ hfits
  room := h.room
  admission := h.admission

theorem gives_of_spelled {α : Type} {env : Environment} {variableName : String} {zeros n : Nat}
    (hset : env.get? variableName = some (spelled zeros n)) (hn : n < 2 ^ 64) (base : α)
    (ofNumber : Nat → α) : Gives env variableName base ofNumber (ofNumber n) := by
  rw [Gives, hset]
  exact ⟨n, says_spelled zeros n, hn, rfl⟩

/-- Settings that are spelled out are what the environment asks for then. -/
theorem Expressible.asked {settings : Settings} (h : settings.Expressible) (zeros : Nat) :
    Asked (settings.toEnvironment zeros) settings := by
  obtain ⟨grace, hgrace, hmove⟩ := h.grace
  obtain ⟨termination, htermination, hwait⟩ := h.termination
  have hlookups : (settings.toEnvironment zeros).get? graceVariable = some (spelled zeros grace) ∧
      (settings.toEnvironment zeros).get? terminationVariable = some (spelled zeros termination) ∧
      (settings.toEnvironment zeros).get? capacityVariable =
        some (spelled zeros settings.queueCapacity) := by
    simp [toEnvironment, Table.ofList, Table.insertMany, Table.get?_insert, graceVariable,
      terminationVariable, capacityVariable, hmove, hwait]
  obtain ⟨hgraceSet, hterminationSet, hcapacitySet⟩ := hlookups
  exact {
    grace := hmove ▸ gives_of_spelled hgraceSet hgrace _ Duration.ofSeconds
    termination := hwait ▸ gives_of_spelled hterminationSet htermination _ Duration.ofSeconds
    capacity := gives_of_spelled hcapacitySet h.capacity _ id
    room := h.room
    admission := h.admission }

theorem Fault.kind_and_field {env : Environment} {variableName : String} {failure : Failure}
    (h : Fault env variableName failure) :
    failure.kind = "Validation" ∧ failure.field? = some variableName := by
  cases h <;> exact ⟨rfl, rfl⟩

/-- There are settings if and only if each variable is not set or says a number that fits, which is not
zero for the capacity of the queue. They are then what the variables say, and the defaults where these are
not set. Otherwise the input is at fault, and the first variable that cannot be taken is the field to
blame. Settings that can be expressed at all are read back as they were when their numbers are spelled
out, however many zeros stand in front. -/
theorem settings_are_what_variables_say :
    (∀ env settings, ofEnvironment env = .ok settings ↔ Asked env settings) ∧
    (∀ env, (∃ settings, ofEnvironment env = .ok settings) ↔
      ∀ variableName ∈ variableNames, Acceptable env variableName) ∧
    (∀ env failure, ofEnvironment env = .error failure ↔
      ∃ earlier variableName later, variableNames = earlier ++ variableName :: later ∧
        (∀ passed ∈ earlier, Acceptable env passed) ∧ Fault env variableName failure ∧
        failure.kind = "Validation" ∧ failure.field? = some variableName) ∧
    (∀ settings : Settings, settings.Expressible ↔
      ∀ zeros, ofEnvironment (settings.toEnvironment zeros) = .ok settings) := by
  refine ⟨fun env settings => ofEnvironment_eq_ok_iff, fun env => exists_ofEnvironment_iff, ?_, ?_⟩
  · intro env failure
    rw [ofEnvironment_eq_error_iff, ← first_fault_iff]
    constructor
    · rintro ⟨earlier, variableName, later, hsplit, hearlier, hfault⟩
      exact ⟨earlier, variableName, later, hsplit, hearlier, hfault, hfault.kind_and_field⟩
    · rintro ⟨earlier, variableName, later, hsplit, hearlier, hfault, -⟩
      exact ⟨earlier, variableName, later, hsplit, hearlier, hfault⟩
  · intro settings
    constructor
    · intro h zeros
      exact ofEnvironment_eq_ok_iff.2 (h.asked zeros)
    · intro h
      exact (ofEnvironment_eq_ok_iff.1 (h 0)).expressible

example : ofEnvironment (.ofList [(graceVariable, "\t+0060 "), (capacityVariable, "18446744073709551615")]) =
    .ok { (default : Settings) with moveGrace := .ofSeconds 60, queueCapacity := 18446744073709551615 } :=
  rfl

/-- The timeout is to blame, one above what fits, and not the capacity, which is looked at later. -/
example : ofEnvironment (.ofList [(terminationVariable, "18446744073709551616"), (capacityVariable, "0")]) =
    .error (.badSetting terminationVariable "18446744073709551616") :=
  rfl

end Settings

end Fleet
