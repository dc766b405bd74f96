import ServiceSyntax.Yaml.Value

/-!
# Equality of YAML values

Equality of keys and of values is decidable, so that what a text stands for can be computed and
compared. It is finer than `Key.same`, for which a truth value and a number are one key.
-/

namespace ServiceSyntax.Yaml

namespace Key

mutual

def decEq : (a b : Key) → Decidable (a = b)
  | scalar s, scalar t =>
    if h : s = t then isTrue (congrArg scalar h) else isFalse fun heq => h (scalar.inj heq)
  | tuple a, tuple b =>
    match decEqAll a b with
    | isTrue h => isTrue (congrArg tuple h)
    | isFalse h => isFalse fun heq => h (tuple.inj heq)
  | scalar _, tuple _ => isFalse nofun
  | tuple _, scalar _ => isFalse nofun

def decEqAll : (a b : List Key) → Decidable (a = b)
  | [], [] => isTrue rfl
  | a :: as, b :: bs =>
    match decEq a b, decEqAll as bs with
    | isTrue h, isTrue hs => isTrue (congr (congrArg List.cons h) hs)
    | isFalse h, _ => isFalse fun heq => h (List.cons.inj heq).1
    | _, isFalse hs => isFalse fun heq => hs (List.cons.inj heq).2
  | [], _ :: _ => isFalse nofun
  | _ :: _, [] => isFalse nofun

end

instance : DecidableEq Key := decEq

end Key

namespace Value

mutual

/-- Whether two values are equal. -/
def equal : Value → Value → Bool
  | scalar s, scalar t => s == t
  | sequence a, sequence b => allEqual a b
  | pair k v, pair l w => equal k l && equal v w
  | mapping a, mapping b => entriesEqual a b
  | set a, set b => a == b
  | hidden, hidden => true
  | _, _ => false

def allEqual : List Value → List Value → Bool
  | [], [] => true
  | v :: a, w :: b => equal v w && allEqual a b
  | _, _ => false

def entriesEqual : List (Key × Value) → List (Key × Value) → Bool
  | [], [] => true
  | (k, v) :: a, (l, w) :: b => k == l && equal v w && entriesEqual a b
  | _, _ => false

end

mutual

theorem equal_iff : (v w : Value) → (equal v w = true ↔ v = w)
  | scalar s, w => by cases w <;> simp [equal]
  | sequence a, w => by cases w <;> simp [equal, allEqual_iff a]
  | pair k v, w => by cases w <;> simp [equal, equal_iff k, equal_iff v]
  | mapping a, w => by cases w <;> simp [equal, entriesEqual_iff a]
  | set a, w => by cases w <;> simp [equal]
  | hidden, w => by cases w <;> simp [equal]

theorem allEqual_iff : (a b : List Value) → (allEqual a b = true ↔ a = b)
  | [], b => by cases b <;> simp [allEqual]
  | v :: a, b => by cases b <;> simp [allEqual, equal_iff v, allEqual_iff a]

theorem entriesEqual_iff : (a b : List (Key × Value)) → (entriesEqual a b = true ↔ a = b)
  | [], b => by cases b <;> simp [entriesEqual]
  | (k, v) :: a, b => by
    cases b with
    | nil => simp [entriesEqual]
    | cons entry b => simp [entriesEqual, equal_iff v, entriesEqual_iff a, Prod.ext_iff]

end

instance : DecidableEq Value := fun v w => decidable_of_decidable_of_iff (equal_iff v w)

end Value

end ServiceSyntax.Yaml
