import ServiceSyntax.Yaml.Scalar

/-!
# Keys of YAML mappings

A key is a scalar or a tuple of keys, which is what a sequence becomes when it is used as a key.
-/

namespace ServiceSyntax.Yaml

inductive Key where
  | scalar (s : Scalar)
  | tuple (items : List Key)
deriving Repr

namespace Key

mutual

/-- Whether two keys are the same. -/
def same : Key → Key → Bool
  | scalar s, scalar t => s.same t
  | tuple a, tuple b => allSame a b
  | _, _ => false

def allSame : List Key → List Key → Bool
  | [], [] => true
  | a :: as, b :: bs => same a b && allSame as bs
  | _, _ => false

end

mutual

/-- The written form of a key inside a tuple. -/
def shown : Key → String
  | scalar s => s.shown
  | tuple [item] => "(" ++ shown item ++ ",)"
  | tuple items => "(" ++ ", ".intercalate (allShown items) ++ ")"

def allShown : List Key → List String
  | [] => []
  | item :: items => shown item :: allShown items

end

mutual

/-- Whether a key has a written form, which takes one of each of its scalars. -/
def isWritable : Key → Bool
  | scalar s => s.isWritable
  | tuple items => allWritable items

def allWritable : List Key → Bool
  | [] => true
  | item :: items => isWritable item && allWritable items

end

/-- The written form of a key. -/
def written : Key → String
  | scalar s => s.written
  | key => key.shown

/-- Sets the value of a key, in the place of an earlier value if there is one. -/
def put {α : Type} (key : Key) (value : α) : List (Key × α) → List (Key × α)
  | [] => [(key, value)]
  | (k, v) :: rest => if k.same key then (k, value) :: rest else (k, v) :: put key value rest

/-- The value of a key that is a text. -/
def get? {α : Type} (name : String) : List (Key × α) → Option α
  | [] => none
  | (k, v) :: rest => if k.same (.scalar (.text name)) then some v else get? name rest

end Key

end ServiceSyntax.Yaml
