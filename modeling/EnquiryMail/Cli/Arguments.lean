/-
Arguments sorted into flags with their values, operands, and what is not understood. From the first argument on that
looks like a flag and is none, everything that is not a known flag counts as not understood, so that a command can
read it again with its own flags. Two dashes end the flags.

A dash and several letters are flags without value, one letter each, as far as such flags go; the first flag with a
value takes the remaining letters as its value, and letters that are no flags are an argument of their own.

`sort_operands`: arguments without a leading dash are operands, in their order.
-/
import EnquiryMail.Cli.Flag

namespace EnquiryMail.Cli

/-- how an argument, or what is left of it, reads -/
inductive Token
  /-- two dashes -/
  | ending
  | flag (f : Flag)
  /-- a flag together with its value -/
  | assigned (f : Flag) (value : String)
  /-- anything else -/
  | other (arg : String)
  deriving DecidableEq, Repr

/-- a long flag, an equals sign and a value -/
def assignment? (known : List Flag) (arg : List Char) : Option (Flag × String) :=
  match arg with
  | '-' :: '-' :: letters =>
    match letters.takeWhile (· != '='), letters.dropWhile (· != '=') with
    | [], _ => none
    | word, '=' :: value =>
      (known.find? fun f => f.spelled ('-' :: '-' :: word) && !f.isSwitch).map fun f => (f, String.ofList value)
    | _, _ => none
  | _ => none

/-- an argument that is no known flag by itself and no run of letters -/
def loose (known : List Flag) (arg : List Char) : Token :=
  match assignment? known arg with
  | some (f, value) => .assigned f value
  | none => .other (String.ofList arg)

/-- reads what stands behind the first dash: flags without value, and then one token -/
def readDashed (known : List Flag) : List Char → List Flag × Token
  | [] => ([], .other "-")
  | c :: more =>
    if c = '-' ∧ more = [] then ([], .ending)
    else
      match known.find? fun f => f.spelled ('-' :: c :: more) with
      | some f => ([], .flag f)
      | none =>
        if c = '-' ∨ more = [] then ([], loose known ('-' :: c :: more))
        else
          match known.find? fun f => f.spelled ['-', c] with
          | some f =>
            if f.isSwitch then
              let (fs, t) := readDashed known more
              (f :: fs, t)
            else ([], .assigned f (String.ofList more))
          | none => ([], loose known ('-' :: c :: more))

/-- reads an argument -/
def readArgument (known : List Flag) (arg : String) : List Flag × Token :=
  match arg.toList with
  | '-' :: letters => readDashed known letters
  | _ => ([], .other arg)

/-- an argument that looks like a flag -/
def looksLikeFlag (arg : String) : Bool :=
  match arg.toList with
  | '-' :: _ :: _ => true
  | _ => false

/-- arguments sorted -/
structure Sorted where
  /-- flags with their values, newest first -/
  flags : List (Flag × String)
  operands : List String
  unknown : List String
  /-- something was not understood, and what follows is kept with it -/
  lost : Bool
  deriving DecidableEq, Repr

/-- what ends the sorting at once -/
inductive Stop
  | version
  | valueMissing (f : Flag)
  deriving DecidableEq, Repr

namespace Sorted

/-- nothing sorted yet -/
def empty : Sorted := ⟨[], [], [], false⟩

/-- takes a flag -/
def set (s : Sorted) (f : Flag) (value : String) : Except Stop Sorted :=
  if f = .version then .error .version else .ok { s with flags := (f, value) :: s.flags }

/-- takes flags without value -/
def setAll (s : Sorted) (fs : List Flag) : Except Stop Sorted := fs.foldlM (fun s f => s.set f "") s

/-- takes arguments that are no flags -/
def add (s : Sorted) (args : List String) : Sorted :=
  if s.lost then { s with unknown := s.unknown ++ args } else { s with operands := s.operands ++ args }

/-- takes an argument that is no known flag -/
def addOther (s : Sorted) (arg : String) : Sorted := { s with lost := s.lost || looksLikeFlag arg }.add [arg]

/-- the value of a flag, the last one if it is given several times -/
def value? (s : Sorted) (f : Flag) : Option String := s.flags.lookup f

/-- the flag is given -/
def has (s : Sorted) (f : Flag) : Bool := (s.value? f).isSome

end Sorted

/-- sorts arguments; `pending` is a flag that waits for its value -/
def sortFrom (known : List Flag) (s : Sorted) (pending : Option Flag) : List String → Except Stop Sorted
  | [] =>
    match pending with
    | some f => .error (.valueMissing f)
    | none => .ok s
  | arg :: rest =>
    match pending with
    | some f =>
      match s.set f arg with
      | .ok s => sortFrom known s none rest
      | .error e => .error e
    | none =>
      match s.setAll (readArgument known arg).1 with
      | .error e => .error e
      | .ok s =>
        match (readArgument known arg).2 with
        | .ending => .ok (s.add (if s.lost then "--" :: rest else rest))
        | .flag f =>
          if f.isSwitch then
            match s.set f "" with
            | .ok s => sortFrom known s none rest
            | .error e => .error e
          else sortFrom known s (some f) rest
        | .assigned f value =>
          match s.set f value with
          | .ok s => sortFrom known s none rest
          | .error e => .error e
        | .other arg => sortFrom known (s.addOther arg) none rest

/-- sorts arguments -/
def sort (known : List Flag) (args : List String) : Except Stop Sorted := sortFrom known .empty none args

theorem sortFrom_operands (known : List Flag) (s : Sorted) (h : s.lost = false) (args : List String)
    (hargs : ∀ a ∈ args, a.toList.head? ≠ some '-') :
    sortFrom known s none args = .ok { s with operands := s.operands ++ args } := by
  induction args generalizing s with
  | nil => simp [sortFrom]
  | cons a rest ih =>
    have ha := hargs a (by simp)
    have hread : readArgument known a = ([], .other a) := by
      unfold readArgument
      split
      · rename_i letters hl; simp [hl] at ha
      · rfl
    have hlook : looksLikeFlag a = false := by
      unfold looksLikeFlag
      split
      · rename_i hl; simp [hl] at ha
      · rfl
    have hadd : s.addOther a = { s with operands := s.operands ++ [a] } := by
      cases s
      simp_all [Sorted.addOther, Sorted.add]
    have hall : s.setAll [] = .ok s := rfl
    simp only [sortFrom, hread, hall, hadd]
    rw [ih _ (by simpa using h) fun b hb => hargs b (by simp [hb])]
    simp

/-- words that do not begin with a dash are operands -/
theorem sort_operands (known : List Flag) (args : List String) (hargs : ∀ a ∈ args, a.toList.head? ≠ some '-') :
    sort known args = .ok ⟨[], args, [], false⟩ :=
  sortFrom_operands known .empty rfl args hargs

end EnquiryMail.Cli
