import SkillTalk.PlaceModels

/-!
# Saving and loading JSON

An object member is read back when its coding key survives the two conversions, and a coding key
with an underscore inside is found in no JSON at all.
-/

namespace SkillTalk

open KeyedContainer

section Except

variable {ε α β : Type}

theorem bind_eq_ok {result : Except ε α} {next : α → Except ε β} {value : β} :
    result >>= next = .ok value ↔ ∃ found, result = .ok found ∧ next found = .ok value := by
  cases result with
  | error error => simp [bind, Except.bind]
  | ok found => simp [bind, Except.bind]

theorem fmap_eq_ok {result : Except ε α} {f : α → β} {value : β} :
    f <$> result = .ok value ↔ ∃ found, result = .ok found ∧ f found = value := by
  cases result with
  | error error => simp [Functor.map, Except.map]
  | ok found => simp [Functor.map, Except.map]

theorem mapM_cons_eq_ok {f : α → Except ε β} {value : α} {values : List α} {results : List β} :
    (value :: values).mapM f = .ok results ↔ ∃ result others,
      f value = .ok result ∧ values.mapM f = .ok others ∧ results = result :: others := by
  simp only [List.mapM_cons, bind_eq_ok, pure, Except.pure, Except.ok.injEq]
  constructor
  · rintro ⟨result, hresult, others, hothers, rfl⟩
    exact ⟨result, others, hresult, hothers, rfl⟩
  · rintro ⟨result, others, hresult, hothers, rfl⟩
    exact ⟨result, hresult, others, hothers, rfl⟩

end Except

/-! ### Keys -/

def ReadableKey (key : String) : Prop := convertFromSnakeCase (convertToSnakeCase key) = key

theorem readableKey_of_words {key : String} (names : List (List Char))
    (hkey : key.toList = SnakeCase.camelCase names)
    (hnames : ∀ name ∈ names, SnakeCase.IsWord name) :
    ReadableKey key := by
  unfold ReadableKey convertFromSnakeCase convertToSnakeCase
  rw [String.toList_ofList, hkey, SnakeCase.fromSnake_toSnake_camelCase hnames, ← hkey,
    String.ofList_toList]

theorem readableKey_of_mem {key : String} (h : key ∈ ["code", "name", "flag", "region", "subregion",
    "lat", "lng", "population", "languages", "timezones"]) : ReadableKey key := by
  have hword : ∀ key ∈ ["code", "name", "flag", "region", "subregion", "lat", "lng", "population",
      "languages", "timezones"], SnakeCase.IsWord key.toList := by decide
  refine readableKey_of_words [key.toList] ?_ ?_
  · simp [SnakeCase.camelCase]
  · simpa using hword key h

theorem readableKey_isPopular : ReadableKey "isPopular" :=
  readableKey_of_words ["is".toList, "popular".toList] (by decide) (by decide)

/-- A key with an underscore inside. -/
structure InnerUnderscore (key : String) : Prop where
  mem : '_' ∈ key.toList
  head : key.toList.head? ≠ some '_'
  last : key.toList.getLast? ≠ some '_'

theorem convertFromSnakeCase_ne {key : String} (hkey : InnerUnderscore key) (name : String) :
    convertFromSnakeCase name ≠ key := by
  rintro rfl
  have hname : (convertFromSnakeCase name).toList = SnakeCase.fromSnake name.toList :=
    String.toList_ofList
  obtain ⟨hmem, hhead, hlast⟩ := hkey
  rw [hname] at hmem hhead hlast
  exact (SnakeCase.fromSnake_underscore hmem).elim hhead hlast

theorem innerUnderscore_countryCode : InnerUnderscore "country_code" := by
  constructor <;> decide

theorem innerUnderscore_nativeName : InnerUnderscore "native_name" := by
  constructor <;> decide

theorem innerUnderscore_phoneCode : InnerUnderscore "phone_code" := by
  constructor <;> decide

/-! ### Values -/

section Coding

variable {Number Double T : Type} {coding : JSONCoding Number T}

namespace JSONCoding

/-- Every value that is encoded is read back, and none is encoded as `null`. -/
structure Exact (coding : JSONCoding Number T) : Prop where
  decode_encode : ∀ value json, coding.encode value = .ok json → coding.decode json = .ok value
  ne_null : ∀ value json, coding.encode value = .ok json → json ≠ .null

def Total (coding : JSONCoding Number T) : Prop := ∀ value, ∃ json, coding.encode value = .ok json

theorem string_exact : Exact (string : JSONCoding Number String) where
  decode_encode := by
    rintro value json ⟨⟩
    rfl
  ne_null := by
    rintro value json ⟨⟩
    nofun

theorem bool_exact : Exact (bool : JSONCoding Number Bool) where
  decode_encode := by
    rintro value json ⟨⟩
    rfl
  ne_null := by
    rintro value json ⟨⟩
    nofun

variable {numbers : NumberFormat Number Double}

theorem int_exact (hnumbers : numbers.Exact) : (int numbers).Exact where
  decode_encode := by
    rintro value json ⟨⟩
    simp only [int, hnumbers.toInt_ofInt, Option.elim_some]
  ne_null := by
    rintro value json ⟨⟩
    nofun

theorem double_encode {value : Double} {json : JSON Number}
    (h : (double numbers).encode value = .ok json) :
    ∃ number, numbers.ofDouble value = some number ∧ json = .number number := by
  cases hnumber : numbers.ofDouble value with
  | none => simp [double, hnumber] at h
  | some number =>
    simp only [double, hnumber, Option.elim_some, Except.ok.injEq] at h
    exact ⟨number, rfl, h.symm⟩

theorem double_exact (hnumbers : numbers.Exact) : (double numbers).Exact where
  decode_encode value json h := by
    obtain ⟨number, hnumber, rfl⟩ := double_encode h
    simp only [double, hnumbers.toDouble_ofDouble value number hnumber, Option.elim_some]
  ne_null value json h := by
    obtain ⟨number, -, rfl⟩ := double_encode h
    nofun

theorem array_encode {values : List T} {json : JSON Number}
    (h : coding.array.encode values = .ok json) :
    ∃ jsons, values.mapM coding.encode = .ok jsons ∧ json = .array jsons := by
  obtain ⟨jsons, hjsons, rfl⟩ := fmap_eq_ok.1 h
  exact ⟨jsons, hjsons, rfl⟩

theorem array_exact (hcoding : coding.Exact) : coding.array.Exact where
  decode_encode values json h := by
    obtain ⟨jsons, hjsons, rfl⟩ := array_encode h
    change jsons.mapM coding.decode = .ok values
    clear h
    induction values generalizing jsons with
    | nil =>
      cases hjsons
      rfl
    | cons value values ih =>
      obtain ⟨json, others, hjson, hothers, rfl⟩ := mapM_cons_eq_ok.1 hjsons
      exact mapM_cons_eq_ok.2 ⟨value, values, hcoding.decode_encode value json hjson,
        ih others hothers, rfl⟩
  ne_null values json h := by
    obtain ⟨jsons, -, rfl⟩ := array_encode h
    nofun

theorem string_total : Total (string : JSONCoding Number String) :=
  fun value => ⟨.string value, rfl⟩

theorem bool_total : Total (bool : JSONCoding Number Bool) := fun value => ⟨.bool value, rfl⟩

theorem int_total : (int numbers).Total := fun value => ⟨.number (numbers.ofInt value), rfl⟩

theorem array_total (hcoding : coding.Total) : coding.array.Total := by
  intro values
  have hjsons : ∃ jsons, values.mapM coding.encode = .ok jsons := by
    induction values with
    | nil => exact ⟨[], rfl⟩
    | cons value values ih =>
      obtain ⟨json, hjson⟩ := hcoding value
      obtain ⟨jsons, hjsons⟩ := ih
      exact ⟨json :: jsons, mapM_cons_eq_ok.2 ⟨json, jsons, hjson, hjsons, rfl⟩⟩
  obtain ⟨jsons, hjsons⟩ := hjsons
  exact ⟨.array jsons, fmap_eq_ok.2 ⟨jsons, hjsons, rfl⟩⟩

end JSONCoding

/-! ### Fields -/

variable {key : String} {container : List (String × JSON Number)}
  {field : String × Option (JSON Number)}

theorem encode_eq_ok {value : T} : encode key coding value = .ok field ↔
    ∃ json, coding.encode value = .ok json ∧ (key, some json) = field :=
  fmap_eq_ok

theorem encode_key {value : T} (h : encode key coding value = .ok field) : field.1 = key := by
  obtain ⟨_, _, rfl⟩ := encode_eq_ok.1 h
  rfl

theorem encodeIfPresent_key {value : Option T} (h : encodeIfPresent key coding value = .ok field) :
    field.1 = key := by
  cases value with
  | none =>
    cases h
    rfl
  | some value => exact encode_key h

/-- A field that is read back: it is absent, or its key is readable. -/
def ReadableField (field : String × Option (JSON Number)) : Prop :=
  field.2 = none ∨ ReadableKey field.1

theorem encode_readable {value : T} (hkey : ReadableKey key)
    (h : encode key coding value = .ok field) : ReadableField field :=
  .inr (by rwa [encode_key h])

theorem encodeIfPresent_readable {value : Option T} (hkey : ReadableKey key)
    (h : encodeIfPresent key coding value = .ok field) : ReadableField field :=
  .inr (by rwa [encodeIfPresent_key h])

theorem encode_of_total (hcoding : coding.Total) (key : String) (value : T) :
    ∃ field, encode key coding value = .ok field := by
  obtain ⟨json, hjson⟩ := hcoding value
  exact ⟨(key, some json), encode_eq_ok.2 ⟨json, hjson, rfl⟩⟩

theorem encodeIfPresent_of_total (hcoding : coding.Total) (key : String) (value : Option T) :
    ∃ field, encodeIfPresent key coding value = .ok field := by
  cases value with
  | none => exact ⟨(key, none), rfl⟩
  | some value => exact encode_of_total hcoding key value

theorem decode_of_encode (hcoding : coding.Exact) {value : T}
    (hfield : encode key coding value = .ok field)
    (hvalue : value? convertFromSnakeCase container field.1 = field.2) :
    decode container key coding = .ok value := by
  obtain ⟨json, hjson, rfl⟩ := encode_eq_ok.1 hfield
  simp only [decode, hvalue]
  exact hcoding.decode_encode value json hjson

theorem decodeIfPresent_of_encode (hcoding : coding.Exact) {value : Option T}
    (hfield : encodeIfPresent key coding value = .ok field)
    (hvalue : value? convertFromSnakeCase container field.1 = field.2) :
    decodeIfPresent container key coding = .ok value := by
  cases value with
  | none =>
    cases hfield
    simp only [decodeIfPresent, hvalue]
  | some value =>
    obtain ⟨json, hjson, rfl⟩ := encode_eq_ok.1 hfield
    have hnull := hcoding.ne_null value json hjson
    unfold decodeIfPresent
    rw [hvalue]
    split
    · rename_i heq
      cases heq
    · rename_i heq
      exact absurd (Option.some.inj heq) hnull
    · rename_i heq
      cases heq
      exact fmap_eq_ok.2 ⟨value, hcoding.decode_encode value json hjson, rfl⟩

theorem value?_of_innerUnderscore (hkey : InnerUnderscore key) :
    value? convertFromSnakeCase container key = none :=
  value?_eq_none_of_forall_ne (convertFromSnakeCase_ne hkey)

theorem decode_of_innerUnderscore (hkey : InnerUnderscore key) :
    decode container key coding = .error (.keyNotFound key) := by
  simp only [decode, value?_of_innerUnderscore hkey]

theorem decodeIfPresent_of_innerUnderscore (hkey : InnerUnderscore key) :
    decodeIfPresent container key coding = .ok none := by
  simp only [decodeIfPresent, value?_of_innerUnderscore hkey]

/-- A coordinate can be written if there is none or it is finite. -/
def FiniteCoordinate (numbers : NumberFormat Number Double) (coordinate : Option Double) : Prop :=
  ∀ value ∈ coordinate, (numbers.ofDouble value).isSome

theorem encodeIfPresent_double_iff {numbers : NumberFormat Number Double} (key : String)
    {coordinate : Option Double} :
    (∃ field, encodeIfPresent key (.double numbers) coordinate = .ok field) ↔
      FiniteCoordinate numbers coordinate := by
  cases coordinate with
  | none => simp [FiniteCoordinate, encodeIfPresent]
  | some value =>
    simp only [FiniteCoordinate, encodeIfPresent, encode_eq_ok, Option.mem_some_iff, forall_eq']
    constructor
    · rintro ⟨_, json, hjson, -⟩
      obtain ⟨number, hnumber, -⟩ := JSONCoding.double_encode hjson
      simp [hnumber]
    · intro hfinite
      obtain ⟨number, hnumber⟩ := Option.isSome_iff_exists.1 hfinite
      exact ⟨_, .number number, by simp [JSONCoding.double, hnumber], rfl⟩

/-! ### Files -/

def onlyFile (path : String) (json : JSON Number) (name : String) : Option (JSONFile Number) :=
  if name = path then some (.text (some json)) else none

/-- Under every name and in every directory, what a save writes is loaded as the value saved. -/
def ReadsBack (coding : JSONCoding Number T) (value : T) : Prop :=
  ∀ filename directory, ∃ path json,
    JSONLoader.save coding value filename directory = .ok (path, json) ∧
      (match directory with
      | none => JSONLoader.load coding (onlyFile path json) filename
      | some directory => JSONLoader.loadFrom coding (onlyFile path json) directory filename) =
        .ok value

theorem read_eq_ok {notFound : String} {json : JSON Number} {value : T} :
    JSONLoader.read coding notFound (some (.text (some json))) = .ok value ↔
      coding.decode json = .ok value := by
  cases h : coding.decode json with
  | error error => simp [JSONLoader.read, h, Except.mapError]
  | ok found => simp [JSONLoader.read, h, Except.mapError]

theorem readsBack_iff {value : T} : ReadsBack coding value ↔
    ∃ json, coding.encode value = .ok json ∧ coding.decode json = .ok value := by
  constructor
  · intro h
    obtain ⟨path, json, hsave, hload⟩ := h "" none
    obtain ⟨json, hjson, heq⟩ := fmap_eq_ok.1 hsave
    cases heq
    refine ⟨json, hjson, ?_⟩
    simpa [JSONLoader.load, onlyFile, read_eq_ok] using hload
  · rintro ⟨json, hencode, hdecode⟩ filename directory
    refine ⟨_, json, fmap_eq_ok.2 ⟨json, hencode, rfl⟩, ?_⟩
    cases directory with
    | none => simpa [JSONLoader.load, onlyFile, read_eq_ok] using hdecode
    | some directory =>
      simpa [JSONLoader.loadFrom, onlyFile, read_eq_ok, String.append_assoc] using hdecode

theorem readsBack_array {values : List T} : ReadsBack coding.array values ↔
    ∃ jsons, values.mapM coding.encode = .ok jsons ∧ jsons.mapM coding.decode = .ok values := by
  rw [readsBack_iff]
  constructor
  · rintro ⟨json, hencode, hdecode⟩
    obtain ⟨jsons, hjsons, rfl⟩ := JSONCoding.array_encode hencode
    exact ⟨jsons, hjsons, hdecode⟩
  · rintro ⟨jsons, hencode, hdecode⟩
    exact ⟨.array jsons, fmap_eq_ok.2 ⟨jsons, hencode, rfl⟩, hdecode⟩

/-- **A list is read back** exactly when its elements are. -/
theorem readsBack_array_iff {values : List T} :
    ReadsBack coding.array values ↔ ∀ value ∈ values, ReadsBack coding value := by
  rw [readsBack_array]
  simp only [readsBack_iff]
  induction values with
  | nil => simpa using ⟨[], rfl, rfl⟩
  | cons value values ih =>
    rw [List.forall_mem_cons, ← ih]
    constructor
    · rintro ⟨jsons, hencode, hdecode⟩
      obtain ⟨json, others, hjson, hothers, rfl⟩ := mapM_cons_eq_ok.1 hencode
      obtain ⟨found, rest, hfound, hrest, heq⟩ := mapM_cons_eq_ok.1 hdecode
      cases heq
      exact ⟨⟨json, hjson, hfound⟩, others, hothers, hrest⟩
    · rintro ⟨⟨json, hjson, hfound⟩, others, hothers, hrest⟩
      exact ⟨json :: others, mapM_cons_eq_ok.2 ⟨json, others, hjson, hothers, rfl⟩,
        mapM_cons_eq_ok.2 ⟨value, values, hfound, hrest, rfl⟩⟩

end Coding

/-! ### Cities and countries -/

variable {Number Double : Type} {numbers : NumberFormat Number Double}
  {keyOrder : String → String → Bool}

/-- **No JSON is a city**: its country code is never found. -/
theorem CityModel.decode_ne_ok (json : JSON Number) (city : CityModel Double) :
    CityModel.decode numbers json ≠ .ok city := by
  intro h
  simp only [CityModel.decode, bind_eq_ok] at h
  obtain ⟨container, -, id, -, name, -, countryCode, hcountryCode, -⟩ := h
  rw [decode_of_innerUnderscore innerUnderscore_countryCode] at hcountryCode
  cases hcountryCode

namespace CountryModel

variable {country : CountryModel Double} {json : JSON Number}

/-- No native name and no phone code is found in any JSON. -/
theorem names_of_decode (h : CountryModel.decode numbers json = .ok country) :
    country.nativeName = none ∧ country.phoneCode = none := by
  simp only [CountryModel.decode, bind_eq_ok,
    decodeIfPresent_of_innerUnderscore innerUnderscore_nativeName,
    decodeIfPresent_of_innerUnderscore innerUnderscore_phoneCode] at h
  obtain ⟨_, -, _, -, _, -, _, ⟨⟩, _, -, _, ⟨⟩, _, -, _, -, _, -, _, -, _, -, _, -, _, -, _, -,
    ⟨⟩⟩ := h
  exact ⟨rfl, rfl⟩

/-! ### The fields of a country -/

/-- The fields that a country is encoded as. -/
structure Fields (Number : Type) where
  id : String × Option (JSON Number)
  name : String × Option (JSON Number)
  nativeName : String × Option (JSON Number)
  flag : String × Option (JSON Number)
  phoneCode : String × Option (JSON Number)
  region : String × Option (JSON Number)
  subregion : String × Option (JSON Number)
  latitude : String × Option (JSON Number)
  longitude : String × Option (JSON Number)
  population : String × Option (JSON Number)
  languages : String × Option (JSON Number)
  timezones : String × Option (JSON Number)
  isPopular : String × Option (JSON Number)

def Fields.list (fields : Fields Number) : List (String × Option (JSON Number)) :=
  [fields.id, fields.name, fields.nativeName, fields.flag, fields.phoneCode, fields.region,
    fields.subregion, fields.latitude, fields.longitude, fields.population, fields.languages,
    fields.timezones, fields.isPopular]

structure EncodesAs (numbers : NumberFormat Number Double) (country : CountryModel Double)
    (fields : Fields Number) : Prop where
  id : SkillTalk.encode "code" .string country.id = .ok fields.id
  name : SkillTalk.encode "name" .string country.name = .ok fields.name
  nativeName : encodeIfPresent "native_name" .string country.nativeName = .ok fields.nativeName
  flag : SkillTalk.encode "flag" .string country.flag = .ok fields.flag
  phoneCode : encodeIfPresent "phone_code" .string country.phoneCode = .ok fields.phoneCode
  region : encodeIfPresent "region" .string country.region = .ok fields.region
  subregion : encodeIfPresent "subregion" .string country.subregion = .ok fields.subregion
  latitude : encodeIfPresent "lat" (.double numbers) country.latitude = .ok fields.latitude
  longitude : encodeIfPresent "lng" (.double numbers) country.longitude = .ok fields.longitude
  population : encodeIfPresent "population" (.int numbers) country.population =
    .ok fields.population
  languages : encodeIfPresent "languages" (.array .string) country.languages = .ok fields.languages
  timezones : encodeIfPresent "timezones" (.array .string) country.timezones = .ok fields.timezones
  isPopular : SkillTalk.encode "isPopular" .bool country.isPopular = .ok fields.isPopular

theorem encode_eq_ok : CountryModel.encode numbers keyOrder country = .ok json ↔
    ∃ fields, EncodesAs numbers country fields ∧ keyedObject keyOrder fields.list = json := by
  simp only [CountryModel.encode, bind_eq_ok]
  constructor
  · rintro ⟨id, hid, name, hname, nativeName, hnativeName, flag, hflag, phoneCode, hphoneCode,
      region, hregion, subregion, hsubregion, latitude, hlatitude, longitude, hlongitude,
      population, hpopulation, languages, hlanguages, timezones, htimezones, isPopular, hisPopular,
      hjson⟩
    exact ⟨⟨id, name, nativeName, flag, phoneCode, region, subregion, latitude, longitude,
        population, languages, timezones, isPopular⟩,
      ⟨hid, hname, hnativeName, hflag, hphoneCode, hregion, hsubregion, hlatitude, hlongitude,
        hpopulation, hlanguages, htimezones, hisPopular⟩, Except.ok.inj hjson⟩
  · rintro ⟨fields, h, rfl⟩
    exact ⟨_, h.id, _, h.name, _, h.nativeName, _, h.flag, _, h.phoneCode, _, h.region, _,
      h.subregion, _, h.latitude, _, h.longitude, _, h.population, _, h.languages, _, h.timezones,
      _, h.isPopular, rfl⟩

theorem exists_encodesAs (hlatitude : FiniteCoordinate numbers country.latitude)
    (hlongitude : FiniteCoordinate numbers country.longitude) :
    ∃ fields, EncodesAs numbers country fields := by
  let text : JSONCoding Number String := .string
  have htotal : text.Total := JSONCoding.string_total
  have htext := encode_of_total htotal
  have htext? := encodeIfPresent_of_total htotal
  have hlist? := encodeIfPresent_of_total (JSONCoding.array_total htotal)
  have hint : (JSONCoding.int numbers).Total := JSONCoding.int_total
  obtain ⟨id, hid⟩ := htext "code" country.id
  obtain ⟨name, hname⟩ := htext "name" country.name
  obtain ⟨nativeName, hnativeName⟩ := htext? "native_name" country.nativeName
  obtain ⟨flag, hflag⟩ := htext "flag" country.flag
  obtain ⟨phoneCode, hphoneCode⟩ := htext? "phone_code" country.phoneCode
  obtain ⟨region, hregion⟩ := htext? "region" country.region
  obtain ⟨subregion, hsubregion⟩ := htext? "subregion" country.subregion
  obtain ⟨latitude, hlatitude⟩ := (encodeIfPresent_double_iff "lat").2 hlatitude
  obtain ⟨longitude, hlongitude⟩ := (encodeIfPresent_double_iff "lng").2 hlongitude
  obtain ⟨population, hpopulation⟩ := encodeIfPresent_of_total hint "population" country.population
  obtain ⟨languages, hlanguages⟩ := hlist? "languages" country.languages
  obtain ⟨timezones, htimezones⟩ := hlist? "timezones" country.timezones
  obtain ⟨isPopular, hisPopular⟩ := encode_of_total JSONCoding.bool_total "isPopular"
    country.isPopular
  exact ⟨⟨id, name, nativeName, flag, phoneCode, region, subregion, latitude, longitude,
      population, languages, timezones, isPopular⟩,
    ⟨hid, hname, hnativeName, hflag, hphoneCode, hregion, hsubregion, hlatitude, hlongitude,
      hpopulation, hlanguages, htimezones, hisPopular⟩⟩

namespace EncodesAs

variable {fields : Fields Number} (h : EncodesAs numbers country fields)
include h

theorem nodup_keys : (fields.list.map Prod.fst).Nodup := by
  have hkeys : fields.list.map Prod.fst = ["code", "name", "native_name", "flag", "phone_code",
      "region", "subregion", "lat", "lng", "population", "languages", "timezones",
      "isPopular"] := by
    simp only [Fields.list, List.map_cons, List.map_nil, encode_key h.id, encode_key h.name,
      encodeIfPresent_key h.nativeName, encode_key h.flag, encodeIfPresent_key h.phoneCode,
      encodeIfPresent_key h.region, encodeIfPresent_key h.subregion,
      encodeIfPresent_key h.latitude, encodeIfPresent_key h.longitude,
      encodeIfPresent_key h.population, encodeIfPresent_key h.languages,
      encodeIfPresent_key h.timezones, encode_key h.isPopular]
  rw [hkeys]
  decide

theorem readable (hnative : country.nativeName = none) (hphone : country.phoneCode = none) :
    ∀ field ∈ fields.list, ReadableField field := by
  have hnative : ReadableField fields.nativeName := by
    have hfield := h.nativeName
    rw [hnative] at hfield
    exact .inl (congrArg Prod.snd (Except.ok.inj hfield)).symm
  have hphone : ReadableField fields.phoneCode := by
    have hfield := h.phoneCode
    rw [hphone] at hfield
    exact .inl (congrArg Prod.snd (Except.ok.inj hfield)).symm
  simp only [Fields.list, List.forall_mem_cons]
  exact ⟨encode_readable (readableKey_of_mem (by decide)) h.id,
    encode_readable (readableKey_of_mem (by decide)) h.name, hnative,
    encode_readable (readableKey_of_mem (by decide)) h.flag, hphone,
    encodeIfPresent_readable (readableKey_of_mem (by decide)) h.region,
    encodeIfPresent_readable (readableKey_of_mem (by decide)) h.subregion,
    encodeIfPresent_readable (readableKey_of_mem (by decide)) h.latitude,
    encodeIfPresent_readable (readableKey_of_mem (by decide)) h.longitude,
    encodeIfPresent_readable (readableKey_of_mem (by decide)) h.population,
    encodeIfPresent_readable (readableKey_of_mem (by decide)) h.languages,
    encodeIfPresent_readable (readableKey_of_mem (by decide)) h.timezones,
    encode_readable readableKey_isPopular h.isPopular, nofun⟩

theorem value?_eq (keyOrder : String → String → Bool) (hnative : country.nativeName = none)
    (hphone : country.phoneCode = none) {field : String × Option (JSON Number)}
    (hfield : field ∈ fields.list) :
    value? convertFromSnakeCase (members convertToSnakeCase keyOrder fields.list) field.1 =
      field.2 := by
  refine value?_members h.nodup_keys (fun key value hmem => ?_) hfield
  exact (h.readable hnative hphone _ hmem).resolve_left (Option.some_ne_none value)

end EncodesAs

/-- **A country without a native name and a phone code is read back**. -/
theorem decode_encode (hnumbers : numbers.Exact) (hnative : country.nativeName = none)
    (hphone : country.phoneCode = none)
    (h : CountryModel.encode numbers keyOrder country = .ok json) :
    CountryModel.decode numbers json = .ok country := by
  obtain ⟨fields, hfields, rfl⟩ := encode_eq_ok.1 h
  have hfind {field} (hmem : field ∈ fields.list) :=
    hfields.value?_eq keyOrder hnative hphone hmem
  have htext {key value field} (h : SkillTalk.encode key .string value = .ok field)
      (hmem : field ∈ fields.list) := decode_of_encode JSONCoding.string_exact h (hfind hmem)
  have htext? {key value field} (h : encodeIfPresent key .string value = .ok field)
      (hmem : field ∈ fields.list) :=
    decodeIfPresent_of_encode JSONCoding.string_exact h (hfind hmem)
  have hcoordinate? {key value field}
      (h : encodeIfPresent key (.double numbers) value = .ok field)
      (hmem : field ∈ fields.list) :=
    decodeIfPresent_of_encode (JSONCoding.double_exact hnumbers) h (hfind hmem)
  have hlist? {key value field} (h : encodeIfPresent key (.array .string) value = .ok field)
      (hmem : field ∈ fields.list) :=
    decodeIfPresent_of_encode (JSONCoding.array_exact JSONCoding.string_exact) h (hfind hmem)
  simp only [CountryModel.decode, bind_eq_ok]
  exact ⟨_, rfl, _, htext hfields.id (by simp [Fields.list]),
    _, htext hfields.name (by simp [Fields.list]),
    _, htext? hfields.nativeName (by simp [Fields.list]),
    _, htext hfields.flag (by simp [Fields.list]),
    _, htext? hfields.phoneCode (by simp [Fields.list]),
    _, htext? hfields.region (by simp [Fields.list]),
    _, htext? hfields.subregion (by simp [Fields.list]),
    _, hcoordinate? hfields.latitude (by simp [Fields.list]),
    _, hcoordinate? hfields.longitude (by simp [Fields.list]),
    _, decodeIfPresent_of_encode (JSONCoding.int_exact hnumbers) hfields.population
      (hfind (by simp [Fields.list])),
    _, hlist? hfields.languages (by simp [Fields.list]),
    _, hlist? hfields.timezones (by simp [Fields.list]),
    _, decode_of_encode JSONCoding.bool_exact hfields.isPopular (hfind (by simp [Fields.list])),
    rfl⟩

/-- What the round trip needs of a country. -/
structure Plain (numbers : NumberFormat Number Double) (country : CountryModel Double) : Prop where
  nativeName : country.nativeName = none
  phoneCode : country.phoneCode = none
  latitude : FiniteCoordinate numbers country.latitude
  longitude : FiniteCoordinate numbers country.longitude

theorem readsBack_iff (hnumbers : numbers.Exact) :
    ReadsBack (coding numbers keyOrder) country ↔ country.Plain numbers := by
  rw [SkillTalk.readsBack_iff]
  constructor
  · rintro ⟨json, hencode, hdecode⟩
    obtain ⟨hnative, hphone⟩ := names_of_decode hdecode
    obtain ⟨fields, hfields, -⟩ := encode_eq_ok.1 hencode
    exact ⟨hnative, hphone, (encodeIfPresent_double_iff "lat").1 ⟨_, hfields.latitude⟩,
      (encodeIfPresent_double_iff "lng").1 ⟨_, hfields.longitude⟩⟩
  · intro hplain
    obtain ⟨fields, hfields⟩ := exists_encodesAs hplain.latitude hplain.longitude
    have hencode : CountryModel.encode numbers keyOrder country = .ok _ :=
      encode_eq_ok.2 ⟨fields, hfields, rfl⟩
    exact ⟨_, hencode, decode_encode hnumbers hplain.nativeName hplain.phoneCode hencode⟩

end CountryModel

theorem CityModel.not_readsBack (city : CityModel Double) :
    ¬ReadsBack (CityModel.coding numbers keyOrder) city := by
  rw [readsBack_iff]
  rintro ⟨json, -, hdecode⟩
  exact CityModel.decode_ne_ok json city hdecode

/-- **What JSONLoader reads back of what it writes**: no city, no list with a city, and the
countries without a native name and a phone code whose coordinates are finite. -/
theorem json_reads_back_iff (keyOrder : String → String → Bool) (hnumbers : numbers.Exact) :
    (∀ city, ¬ReadsBack (CityModel.coding numbers keyOrder) city) ∧
      (∀ cities, ReadsBack (CityModel.coding numbers keyOrder).array cities ↔ cities = []) ∧
      (∀ country : CountryModel Double,
        ReadsBack (CountryModel.coding numbers keyOrder) country ↔ country.Plain numbers) ∧
      ∀ countries : List (CountryModel Double),
        ReadsBack (CountryModel.coding numbers keyOrder).array countries ↔
          ∀ country ∈ countries, country.Plain numbers := by
  refine ⟨CityModel.not_readsBack, fun cities => ?_, fun country =>
    CountryModel.readsBack_iff hnumbers, fun countries => ?_⟩
  · rw [readsBack_array_iff, List.eq_nil_iff_forall_not_mem]
    exact forall₂_congr fun city _ => iff_of_false (CityModel.not_readsBack city) id
  · rw [readsBack_array_iff]
    exact forall₂_congr fun country _ => CountryModel.readsBack_iff hnumbers

/-- Numbers written exactly; `none` is not finite. -/
def exactNumbers : NumberFormat ℚ (Option ℚ) where
  ofInt value := value.toInt
  toInt number := if number.isInt then some (Int64.ofInt number.num) else none
  ofDouble value := value
  toDouble number := some (some number)

theorem exactNumbers_exact : exactNumbers.Exact where
  toInt_ofInt value := by simp [exactNumbers, Rat.isInt]
  toDouble_ofDouble := by
    rintro value number rfl
    rfl

def norway (phoneCode : Option String) : CountryModel (Option ℚ) where
  id := "NO"
  name := "Norway"
  nativeName := none
  flag := "🇳🇴"
  phoneCode := phoneCode
  region := some "Europe"
  subregion := none
  latitude := some (some 60)
  longitude := none
  population := some 5500000
  languages := some ["no"]
  timezones := none
  isPopular := true

theorem json_reads_back_of_norway :
    exactNumbers.Exact ∧ ReadsBack (CountryModel.coding exactNumbers fun _ _ => true).array
      [norway none] := by
  refine ⟨exactNumbers_exact,
    ((json_reads_back_iff (fun _ _ => true) exactNumbers_exact).2.2.2 _).2 ?_⟩
  rintro country hcountry
  obtain rfl := List.mem_singleton.1 hcountry
  exact ⟨rfl, rfl, by rintro value ⟨⟩; rfl, by rintro value ⟨⟩⟩

theorem oslo_not_read_back :
    ¬ReadsBack (CityModel.coding exactNumbers fun _ _ => true)
        ⟨"oslo", "Oslo", "NO", none, some (some 60), none, some 700000, none⟩ ∧
      ¬ReadsBack (CountryModel.coding exactNumbers fun _ _ => true) (norway (some "+47")) := by
  refine ⟨CityModel.not_readsBack _, fun h => ?_⟩
  have hplain := (CountryModel.readsBack_iff exactNumbers_exact).1 h
  exact absurd hplain.phoneCode (Option.some_ne_none _)

end SkillTalk
