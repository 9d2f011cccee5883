import SkillTalk.Library.KeyedContainer
import SkillTalk.Library.SnakeCase

/-!
# The JSON loader

Encoding and decoding with the key strategies that the loader sets. A number is written and read in
a format of its own, which has nothing for a number that is not finite. Objects are written with
their members in some order of the keys.
-/

namespace SkillTalk

inductive JSON (Number : Type) where
  | null
  | bool (value : Bool)
  | number (value : Number)
  | string (value : String)
  | array (values : List (JSON Number))
  | object (members : List (String × JSON Number))

/-- How integers and floating point numbers are written and read. -/
structure NumberFormat (Number Double : Type) where
  ofInt : Int64 → Number
  toInt : Number → Option Int64
  ofDouble : Double → Option Number
  toDouble : Number → Option Double

/-- What is written is read back. -/
structure NumberFormat.Exact {Number Double : Type} (numbers : NumberFormat Number Double) :
    Prop where
  toInt_ofInt : ∀ value, numbers.toInt (numbers.ofInt value) = some value
  toDouble_ofDouble : ∀ value number, numbers.ofDouble value = some number →
    numbers.toDouble number = some value

/-- `EncodingError`, without its context. -/
inductive EncodingError where
  | invalidValue
  deriving DecidableEq, Repr

/-- `DecodingError`, without its context. -/
inductive DecodingError where
  | keyNotFound (key : String)
  | valueNotFound
  | typeMismatch
  | dataCorrupted
  deriving DecidableEq, Repr

def convertToSnakeCase (key : String) : String := String.ofList (SnakeCase.toSnake key.toList)

def convertFromSnakeCase (key : String) : String := String.ofList (SnakeCase.fromSnake key.toList)

/-! ### Values -/

structure JSONCoding (Number T : Type) where
  encode : T → Except EncodingError (JSON Number)
  decode : JSON Number → Except DecodingError T

namespace JSONCoding

variable {Number Double T : Type}

def string : JSONCoding Number String where
  encode value := .ok (.string value)
  decode
    | .string value => .ok value
    | .null => .error .valueNotFound
    | _ => .error .typeMismatch

def bool : JSONCoding Number Bool where
  encode value := .ok (.bool value)
  decode
    | .bool value => .ok value
    | .null => .error .valueNotFound
    | _ => .error .typeMismatch

def int (numbers : NumberFormat Number Double) : JSONCoding Number Int64 where
  encode value := .ok (.number (numbers.ofInt value))
  decode
    | .number value => (numbers.toInt value).elim (.error .dataCorrupted) .ok
    | .null => .error .valueNotFound
    | _ => .error .typeMismatch

def double (numbers : NumberFormat Number Double) : JSONCoding Number Double where
  encode value := (numbers.ofDouble value).elim (.error .invalidValue) fun number =>
    .ok (.number number)
  decode
    | .number value => (numbers.toDouble value).elim (.error .dataCorrupted) .ok
    | .null => .error .valueNotFound
    | _ => .error .typeMismatch

def array (coding : JSONCoding Number T) : JSONCoding Number (List T) where
  encode values := .array <$> values.mapM coding.encode
  decode
    | .array values => values.mapM coding.decode
    | .null => .error .valueNotFound
    | _ => .error .typeMismatch

end JSONCoding

/-! ### Keyed containers -/

section Keyed

variable {Number T : Type}

def encode (key : String) (coding : JSONCoding Number T) (value : T) :
    Except EncodingError (String × Option (JSON Number)) :=
  (fun json => (key, some json)) <$> coding.encode value

def encodeIfPresent (key : String) (coding : JSONCoding Number T) :
    Option T → Except EncodingError (String × Option (JSON Number))
  | none => .ok (key, none)
  | some value => encode key coding value

def keyedObject (keyOrder : String → String → Bool)
    (fields : List (String × Option (JSON Number))) : JSON Number :=
  .object (KeyedContainer.members convertToSnakeCase keyOrder fields)

/-- `container(keyedBy:)`. -/
def keyedContainer : JSON Number → Except DecodingError (List (String × JSON Number))
  | .object members => .ok members
  | .null => .error .valueNotFound
  | _ => .error .typeMismatch

def decode (container : List (String × JSON Number)) (key : String) (coding : JSONCoding Number T) :
    Except DecodingError T :=
  match KeyedContainer.value? convertFromSnakeCase container key with
  | none => .error (.keyNotFound key)
  | some json => coding.decode json

def decodeIfPresent (container : List (String × JSON Number)) (key : String)
    (coding : JSONCoding Number T) : Except DecodingError (Option T) :=
  match KeyedContainer.value? convertFromSnakeCase container key with
  | none => .ok none
  | some .null => .ok none
  | some json => some <$> coding.decode json

end Keyed

/-! ### Files -/

/-- What a file of the bundle holds: it cannot be read, or is JSON text or not. -/
inductive JSONFile (Number : Type) where
  | unreadable (localizedDescription : String)
  | text (json : Option (JSON Number))

namespace JSONLoader

inductive LoaderError where
  | fileNotFound (name : String)
  | invalidJSON (message : String)
  | decodingError (error : DecodingError)
  deriving DecidableEq, Repr

variable {Number T : Type} (coding : JSONCoding Number T)

def read (notFound : String) : Option (JSONFile Number) → Except LoaderError T
  | none => .error (.fileNotFound notFound)
  | some (.unreadable localizedDescription) => .error (.invalidJSON localizedDescription)
  | some (.text none) => .error (.decodingError .dataCorrupted)
  | some (.text (some json)) => (coding.decode json).mapError .decodingError

def load (bundle : String → Option (JSONFile Number)) (filename : String) : Except LoaderError T :=
  read coding filename (bundle (filename ++ ".json"))

def loadFrom (bundle : String → Option (JSONFile Number)) (directory filename : String) :
    Except LoaderError T :=
  read coding (directory ++ "/" ++ filename ++ ".json")
    (bundle (directory ++ "/" ++ filename ++ ".json"))

/-- The path of the file, in the documents directory, and what is written to it. -/
def save (data : T) (filename : String) (directory : Option String) :
    Except EncodingError (String × JSON Number) :=
  (fun json => (directory.elim "" (· ++ "/") ++ filename ++ ".json", json)) <$> coding.encode data

end JSONLoader

end SkillTalk
