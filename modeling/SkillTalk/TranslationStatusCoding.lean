import SkillTalk.JSONLoader
import SkillTalk.ReferenceDataModels

/-!
# Translation statuses as JSON

A status is an object with its type, and with a date or a message where the type has one. How the
loader writes dates and reads them is a parameter.
-/

namespace SkillTalk

/-- The date strategies of the loader. -/
structure DateFormat where
  string : Date → String
  date : String → Option Date

variable {Number : Type} (dates : DateFormat) (keyOrder : String → String → Bool)

def JSONCoding.date : JSONCoding Number Date where
  encode value := .ok (.string (dates.string value))
  decode
    | .string text => (dates.date text).elim (.error .dataCorrupted) .ok
    | .null => .error .valueNotFound
    | _ => .error .typeMismatch

namespace TranslationStatus

def encode : TranslationStatus → Except EncodingError (JSON Number)
  | .notLoaded => do
      let type ← SkillTalk.encode "type" .string "notLoaded"
      return keyedObject keyOrder [type]
  | .loading => do
      let type ← SkillTalk.encode "type" .string "loading"
      return keyedObject keyOrder [type]
  | .loaded date => do
      let type ← SkillTalk.encode "type" .string "loaded"
      let date ← SkillTalk.encode "date" (.date dates) date
      return keyedObject keyOrder [type, date]
  | .failed errorMessage => do
      let type ← SkillTalk.encode "type" .string "failed"
      let errorMessage ← SkillTalk.encode "errorMessage" .string errorMessage
      return keyedObject keyOrder [type, errorMessage]

def decode (json : JSON Number) : Except DecodingError TranslationStatus := do
  let container ← keyedContainer json
  let type ← SkillTalk.decode container "type" .string
  if type = "notLoaded" then return .notLoaded
  else if type = "loading" then return .loading
  else if type = "loaded" then
    let date ← SkillTalk.decode container "date" (.date dates)
    return .loaded date
  else if type = "failed" then
    let errorMessage ← SkillTalk.decode container "errorMessage" .string
    return .failed errorMessage
  else throw .dataCorrupted

def coding : JSONCoding Number TranslationStatus where
  encode := encode dates keyOrder
  decode := decode dates

end TranslationStatus

end SkillTalk
