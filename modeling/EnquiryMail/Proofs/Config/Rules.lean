/-
The rules of variables. What a rule asks of a value is said here without reading anything: to be there, not to be
blank, to be an address, a list of addresses or an integer within bounds. Each reading of a variable gives a value
exactly when its rule holds, and any issue it has is one of that variable.

- `Rule.Holds`: what a rule asks of the value of a variable, if it has one.
- `requiredTrimmed_eq_ok`, `addressList_eq_ok`, `wholeNumber_eq_ok` and the like: the values that the readings give.
- `Obeys`: a reading goes by a rule; `obeys_requiredTrimmed`, `obeys_addressList`, `obeys_wholeNumber` and the like.
-/
import Mathlib.Tactic
import EnquiryMail.Config.Rules
import EnquiryMail.Proofs.Number.Exact

namespace EnquiryMail.Config

open Reading

/-! ## Rules -/

/-- what is asked of a variable -/
inductive Rule
  /-- nothing -/
  | free
  /-- a text that is not empty -/
  | present
  /-- a text that is not blank -/
  | filled
  /-- an address, unless it is blank -/
  | address
  /-- addresses between commas, one at least -/
  | addresses
  /-- an integer within bounds, unless it is blank -/
  | integer (least : Int) (most : Option Int)
  deriving DecidableEq, Repr

/-- a rule holds of the value of a variable, or of there being none -/
def Rule.Holds : Rule → Option String → Prop
  | .free, _ => True
  | .present, value => ∃ v ∈ value, v ≠ ""
  | .filled, value => ∃ v ∈ value, isBlankText v = false
  | .address, value => ∀ v ∈ value, isBlankText v = false → Mail.isAddress (trimmed v) = true
  | .addresses, value => ∃ v ∈ value, members v ≠ [] ∧ ∀ m ∈ members v, Mail.isAddress m = true
  | .integer least most, value =>
    ∀ v ∈ value, isBlankText v = false → ∃ k : Int, Number.ofText v = .finite k ∧ least ≤ k ∧ ∀ m ∈ most, k ≤ m

theorem toInt?_eq_some {n : Number} {k : Int} : n.toInt? = some k ↔ n = .finite k := by
  cases n with
  | nan => simp [Number.toInt?]
  | infinite negative => simp [Number.toInt?]
  | finite q =>
    simp only [Number.toInt?, Number.finite.injEq]
    constructor
    · intro h
      split at h
      · rename_i hden
        cases h
        exact ((Rat.den_eq_one_iff q).1 hden).symm
      · cases h
    · rintro rfl
      simp

instance (r : Rule) (value : Option String) : Decidable (r.Holds value) :=
  match r with
  | .free => isTrue trivial
  | .present => inferInstanceAs (Decidable (∃ v ∈ value, v ≠ ""))
  | .filled => inferInstanceAs (Decidable (∃ v ∈ value, isBlankText v = false))
  | .address =>
    inferInstanceAs (Decidable (∀ v ∈ value, isBlankText v = false → Mail.isAddress (trimmed v) = true))
  | .addresses =>
    inferInstanceAs (Decidable (∃ v ∈ value, members v ≠ [] ∧ ∀ m ∈ members v, Mail.isAddress m = true))
  | .integer least most =>
    decidable_of_iff (∀ v ∈ value, isBlankText v = false →
        ∃ k ∈ (Number.ofText v).toInt?, least ≤ k ∧ ∀ m ∈ most, k ≤ m) (by
      simp only [Rule.Holds, Option.mem_def, toInt?_eq_some])

/-- a reading goes by a rule: it gives a value exactly when the rule holds of the variable, and any issue is one of it -/
structure Obeys {α : Type} (r : Rule) (env : Environment) (name : String) (a : Reading α) : Prop where
  accepts : (∃ x, a = .ok x) ↔ r.Holds (env.get? name)
  issues : ∀ is, a = .error is → is ≠ [] ∧ ∀ i ∈ is, i.name = name

variable {α : Type} {env : Environment} {name : String} {fallback : Nat}

theorem issues_fault {f : Fault} {is : List Issue} (h : (fault name f : Reading α) = .error is) :
    is ≠ [] ∧ ∀ i ∈ is, i.name = name := by
  cases h
  simp

/-! ## Texts and addresses -/

theorem requiredTrimmed_eq_ok {x : String} :
    requiredTrimmed env name = .ok x ↔ ∃ v ∈ env.get? name, isBlankText v = false ∧ trimmed v = x := by
  unfold requiredTrimmed
  cases hv : env.get? name with
  | none => simp [fault]
  | some v => cases hblank : isBlankText v <;> simp [fault, hblank]

theorem requiredText_eq_ok {x : String} : requiredText env name = .ok x ↔ x ∈ env.get? name ∧ x ≠ "" := by
  unfold requiredText
  cases hv : env.get? name with
  | none => simp [fault]
  | some v =>
    by_cases hempty : v = ""
    · simp [fault, hempty]
    · simp only [if_neg hempty, Except.ok.injEq, Option.mem_some_iff]
      constructor
      · rintro rfl
        exact ⟨rfl, hempty⟩
      · exact And.left

theorem optionalText_eq_some {x : String} :
    optionalText env name = some x ↔ ∃ v ∈ env.get? name, isBlankText v = false ∧ trimmed v = x := by
  unfold optionalText
  cases hv : env.get? name with
  | none => simp
  | some v => cases hblank : isBlankText v <;> simp [hblank]

theorem optionalAddress_eq_ok {x : Option String} :
    optionalAddress env name = .ok x ↔ optionalText env name = x ∧ ∀ a ∈ x, Mail.isAddress a = true := by
  unfold optionalAddress
  split
  · rename_i v hv
    by_cases haddress : Mail.isAddress v = true
    · rw [if_pos haddress, hv]
      constructor
      · rintro ⟨⟩
        simp [haddress]
      · rintro ⟨rfl, -⟩
        rfl
    · rw [if_neg haddress, hv]
      constructor
      · rintro ⟨⟩
      · rintro ⟨rfl, hall⟩
        exact absurd (hall v rfl) haddress
  · rename_i hnone
    rw [hnone]
    constructor
    · rintro ⟨⟩
      simp
    · rintro ⟨rfl, -⟩
      rfl

/-- the places of a list that hold no address -/
theorem misplaced_eq_nil {ms : List String} : (ms.zipIdx.filterMap fun (m, i) =>
    if Mail.isAddress m then none else some (⟨name, some i, .notAddress⟩ : Issue)) = [] ↔
      ∀ m ∈ ms, Mail.isAddress m = true := by
  simp only [List.filterMap_eq_nil_iff, Prod.forall]
  constructor
  · intro h m hm
    obtain ⟨i, hi, rfl⟩ := List.getElem_of_mem hm
    by_contra hno
    simpa [hno] using h ms[i] i (by simp [List.mem_zipIdx_iff_getElem?, hi])
  · intro h m i hmi
    have hm : m ∈ ms := by
      have := List.mem_zipIdx_iff_getElem?.1 hmi
      exact List.mem_of_getElem? this
    simp [h m hm]

theorem addressList_eq_ok {ms : List String} :
    addressList env name = .ok ms ↔
      ∃ v ∈ env.get? name, members v = ms ∧ ms ≠ [] ∧ ∀ m ∈ ms, Mail.isAddress m = true := by
  unfold addressList
  cases hv : env.get? name with
  | none => simp [fault]
  | some v =>
    simp only [Option.mem_some_iff, exists_eq_left']
    cases hms : members v with
    | nil =>
      simp only [fault, reduceCtorEq, false_iff]
      rintro ⟨rfl, hne, -⟩
      exact hne rfl
    | cons m rest =>
      dsimp only
      split
      · rename_i hnone
        rw [misplaced_eq_nil] at hnone
        constructor
        · rintro ⟨⟩
          exact ⟨rfl, by simp, hnone⟩
        · rintro ⟨rfl, -⟩
          rfl
      · rename_i hsome
        constructor
        · rintro ⟨⟩
        · rintro ⟨rfl, -, hall⟩
          exact absurd (misplaced_eq_nil.2 hall) hsome

theorem obeys_requiredTrimmed (env : Environment) (name : String) :
    Obeys .filled env name (requiredTrimmed env name) := by
  constructor
  case accepts => simp [requiredTrimmed_eq_ok, Rule.Holds]
  case issues =>
    intro is h
    unfold requiredTrimmed at h
    split at h
    · split at h
      · exact issues_fault h
      · cases h
    · exact issues_fault h

theorem obeys_requiredText (env : Environment) (name : String) :
    Obeys .present env name (requiredText env name) := by
  constructor
  case accepts => simp [requiredText_eq_ok, Rule.Holds]
  case issues =>
    intro is h
    unfold requiredText at h
    split at h
    · split at h
      · exact issues_fault h
      · cases h
    · exact issues_fault h

theorem obeys_optionalAddress (env : Environment) (name : String) :
    Obeys .address env name (optionalAddress env name) := by
  constructor
  case accepts =>
    simp only [optionalAddress_eq_ok, exists_eq_left', Option.mem_def, optionalText_eq_some, Rule.Holds]
    constructor
    · intro h v hv hfilled
      exact h _ ⟨v, hv, hfilled, rfl⟩
    · rintro h _ ⟨v, hv, hfilled, rfl⟩
      exact h v hv hfilled
  case issues =>
    intro is h
    unfold optionalAddress at h
    split at h
    · split at h
      · cases h
      · exact issues_fault h
    · cases h

theorem obeys_addressList (env : Environment) (name : String) :
    Obeys .addresses env name (addressList env name) := by
  constructor
  case accepts =>
    simp only [addressList_eq_ok, Rule.Holds]
    constructor
    · rintro ⟨_, v, hv, rfl, hne, hall⟩
      exact ⟨v, hv, hne, hall⟩
    · rintro ⟨v, hv, hne, hall⟩
      exact ⟨_, v, hv, rfl, hne, hall⟩
  case issues =>
    intro is h
    unfold addressList at h
    split at h
    · exact issues_fault h
    split at h
    · exact issues_fault h
    split at h
    · cases h
    · rename_i hsome
      cases h
      refine ⟨hsome, ?_⟩
      intro i hi
      obtain ⟨⟨m, place⟩, -, hplaced⟩ := List.mem_filterMap.1 hi
      dsimp only at hplaced
      split at hplaced
      · cases hplaced
      · cases hplaced
        rfl

/-! ## Numbers -/

theorem isInteger_iff {n : Number} : isInteger n = true ↔ ∃ k : Int, n = .finite k := by
  rw [isInteger, Option.isSome_iff_exists]
  simp only [toInt?_eq_some]

theorem lt_zero_intCast {k : Int} : Number.lt 0 (.finite k) = true ↔ 1 ≤ k := by
  rw [Number.zero_eq, Number.lt_intCast]
  omega

theorem le_intCast {k m : Int} : Number.le (.finite k) (.finite m) = true ↔ k ≤ m := by
  rw [Time.le_finite, Int.cast_le]

theorem ofInt_maxPort : Number.ofInt maxPort = .finite ((65535 : Int) : Rat) :=
  Number.nearest_intCast (z := 65535) (by decide)

/-- a whole number that a bound lets through is an integer from the bound on -/
theorem wholeNumber_eq_ok {bound : Number → Bool} {f : Fault} {least : Int}
    (hbound : ∀ k : Int, bound (.finite k) = true ↔ least ≤ k) {n : Number} :
    wholeNumber env name fallback bound f = .ok n ↔
      ∃ k : Int, numberOr env name fallback = .finite k ∧ least ≤ k ∧ .finite k = n := by
  unfold wholeNumber
  generalize numberOr env name fallback = m
  by_cases hnan : m = .nan
  · subst hnan
    simp [fault]
  simp only [if_neg hnan]
  constructor
  · intro h
    cases hinteger : isInteger m <;> cases hpassed : bound m <;> simp [hinteger, hpassed] at h
    obtain ⟨k, rfl⟩ := isInteger_iff.1 hinteger
    exact ⟨k, rfl, (hbound k).1 hpassed, h⟩
  · rintro ⟨k, rfl, hle, rfl⟩
    have hinteger : isInteger (.finite k) = true := isInteger_iff.2 ⟨k, rfl⟩
    simp [hinteger, (hbound k).2 hle]

theorem issues_wholeNumber {bound : Number → Bool} {f : Fault} {is : List Issue}
    (h : wholeNumber env name fallback bound f = .error is) : is ≠ [] ∧ ∀ i ∈ is, i.name = name := by
  unfold wholeNumber at h
  dsimp only at h
  split at h
  · exact issues_fault h
  · split at h
    · cases h
    · rename_i hsome
      cases h
      refine ⟨hsome, ?_⟩
      intro i hi
      rcases List.mem_append.1 hi with hi | hi <;> split at hi <;> simp_all

/-- the number of a variable is an integer in a range exactly when its rule holds, as the fallback is -/
theorem holds_integer {least : Int} {most : Option Int} (hleast : least ≤ fallback)
    (hmost : ∀ m ∈ most, (fallback : Int) ≤ m) (hsmall : fallback < 2 ^ 53) :
    (Rule.integer least most).Holds (env.get? name) ↔
      ∃ k : Int, numberOr env name fallback = .finite k ∧ least ≤ k ∧ ∀ m ∈ most, k ≤ m := by
  have hfallback : Number.ofInt fallback = .finite ((fallback : Int) : Rat) :=
    Number.nearest_intCast (by omega)
  have hunset : ∃ k : Int, Number.ofInt fallback = .finite k ∧ least ≤ k ∧ ∀ m ∈ most, k ≤ m :=
    ⟨fallback, hfallback, hleast, hmost⟩
  simp only [Rule.Holds, numberOr]
  cases hv : env.get? name with
  | none => simpa using hunset
  | some v =>
    cases hblank : isBlankText v with
    | true => simpa [hblank] using hunset
    | false => simp [hblank]

theorem positiveNumber_eq_ok {n : Number} :
    positiveNumber env name fallback = .ok n ↔
      ∃ k : Int, numberOr env name fallback = .finite k ∧ 1 ≤ k ∧ .finite k = n :=
  wholeNumber_eq_ok fun _ => lt_zero_intCast

theorem portNumber_eq_ok {n : Number} :
    portNumber env name fallback = .ok n ↔
      ∃ k : Int, numberOr env name fallback = .finite k ∧ 1 ≤ k ∧ k ≤ 65535 ∧ .finite k = n := by
  unfold portNumber
  constructor
  · intro h
    split at h
    · rename_i m hm
      obtain ⟨k, hk, hpos, rfl⟩ := positiveNumber_eq_ok.1 hm
      split at h
      · rename_i hle
        rw [ofInt_maxPort, le_intCast] at hle
        cases h
        exact ⟨k, hk, hpos, hle, rfl⟩
      · cases h
    · cases h
  · rintro ⟨k, hk, hpos, hle, rfl⟩
    rw [positiveNumber_eq_ok.2 ⟨k, hk, hpos, rfl⟩]
    dsimp only
    rw [ofInt_maxPort, if_pos (le_intCast.2 hle)]

theorem obeys_wholeNumber (env : Environment) (name : String) {bound : Number → Bool} {f : Fault} {least : Int}
    (hbound : ∀ k : Int, bound (.finite k) = true ↔ least ≤ k) (hleast : least ≤ fallback) (hsmall : fallback < 2 ^ 53) :
    Obeys (.integer least none) env name (wholeNumber env name fallback bound f) := by
  constructor
  case accepts =>
    rw [holds_integer hleast (by simp) hsmall]
    simp only [wholeNumber_eq_ok hbound]
    constructor
    · rintro ⟨_, k, hk, hle, -⟩
      exact ⟨k, hk, hle, by simp⟩
    · rintro ⟨k, hk, hle, -⟩
      exact ⟨_, k, hk, hle, rfl⟩
  case issues => exact fun is => issues_wholeNumber

theorem obeys_positiveNumber (env : Environment) (name : String) (fallback : Nat) (hpos : 1 ≤ fallback)
    (hsmall : fallback < 2 ^ 53) :
    Obeys (.integer 1 none) env name (positiveNumber env name fallback) :=
  obeys_wholeNumber env name (fun _ => lt_zero_intCast) (by omega) hsmall

theorem obeys_naturalNumber (env : Environment) (name : String) (fallback : Nat) (hsmall : fallback < 2 ^ 53) :
    Obeys (.integer 0 none) env name (naturalNumber env name fallback) :=
  obeys_wholeNumber env name (fun _ => le_intCast) (by omega) hsmall

theorem obeys_portNumber (env : Environment) (name : String) (fallback : Nat) (hpos : 1 ≤ fallback)
    (hle : fallback ≤ 65535) : Obeys (.integer 1 (some 65535)) env name (portNumber env name fallback) := by
  have hleast : (1 : Int) ≤ fallback := by omega
  have hmost : ∀ m ∈ some (65535 : Int), (fallback : Int) ≤ m := by simpa using hle
  constructor
  case accepts =>
    rw [holds_integer hleast hmost (by omega)]
    simp only [portNumber_eq_ok]
    constructor
    · rintro ⟨_, k, hk, hpos, hle, -⟩
      exact ⟨k, hk, hpos, by simpa using hle⟩
    · rintro ⟨k, hk, hpos, hle⟩
      exact ⟨_, k, hk, hpos, by simpa using hle, rfl⟩
  case issues =>
    intro is h
    unfold portNumber at h
    split at h
    · split at h
      · cases h
      · exact issues_fault h
    · rename_i hissues
      cases h
      exact issues_wholeNumber hissues

end EnquiryMail.Config
