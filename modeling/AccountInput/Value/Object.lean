import AccountInput.Value.Standard

namespace AccountInput

/-- The kinds of faults that are no problems of the library's own. -/
inductive FaultKind where
  | wrongType
  | badValue
  | noAttribute
  | noKey
  | overflow
  | memory
  | malformedJson
  | malformedToml
  | malformedText
  | isDirectory
  | nameTooLong
  | noHome
deriving DecidableEq

/-- What a fault of a kind says where it has no words of its own. -/
def FaultKind.text : FaultKind → String
  | wrongType => "wrong type"
  | badValue => "bad value"
  | noAttribute => "no such attribute"
  | noKey => "no such key"
  | overflow => "number too large"
  | memory => "out of memory"
  | malformedJson => "malformed JSON"
  | malformedToml => "malformed TOML"
  | malformedText => "malformed text"
  | isDirectory => "is a directory"
  | nameTooLong => "name too long"
  | noHome => "no home directory"

/-- What an attribute of an object gives to whoever reads it. -/
inductive Attribute (V : Type) where
  | holds (v : V)
  | raises (kind : FaultKind)

/-- An object of a class of its own, which is no number, no container and no record, and is equal to
itself alone. -/
structure Object (V : Type) where
  typeName : String
  /-- Its text on its own and the one inside another; none where making it meets a bad value. -/
  own : Option String
  inside : Option String
  /-- Whether it counts as true, unless telling that fails. -/
  truth : Except FaultKind Bool
  attributes : List (String × Attribute V)

/-- A value of a type that neither documents nor the library have. -/
inductive Extended (V : Type) where
  | standard (s : Standard)
  | object (o : Object V)

namespace Extended

variable {V : Type}

def typeName : Extended V → String
  | .standard s => s.typeName
  | .object o => o.typeName

def isTruthy : Extended V → Bool
  | .standard s => s.isTruthy
  | .object o => o.truth.toOption.getD true

def repr? : Extended V → Option String
  | .standard s => s.repr?
  | .object o => o.inside

def str? : Extended V → Option String
  | .standard s => s.str?
  | .object o => o.own

def numeric? : Extended V → Option Numeric
  | .standard s => s.numeric?
  | .object _ => none

/-- Equality by meaning. An object is equal to no other. -/
def equal : Extended V → Extended V → Bool
  | .standard s, .standard t => s.equal t
  | _, _ => false

end Extended
end AccountInput
