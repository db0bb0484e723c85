import EntityGen.Kind.Value

/-!
The closed catalogue of field kinds: 31 kinds of stored values and six of relations. A kind is found
by its name; five have a second spelling that keeps an acronym in capitals (`ofName?_eq_some_iff` says
which texts name a kind). -/
namespace EntityGen

/-- What a model's field is declared to be. -/
inductive Kind where
  | auto | bigAuto | smallAuto | uuid
  | boolean | nullBoolean
  | smallInteger | integer | bigInteger
  | positiveSmallInteger | positiveInteger | positiveBigInteger
  | float | decimal
  | char | text | slug | email | url | file | filePath | image
  | genericIpAddress | ipAddress | commaSeparatedInteger
  | date | dateTime | time | duration
  | binary | json
  | foreignKey | manyToOneRel | oneToOne | oneToOneRel | manyToMany | manyToManyRel
  deriving DecidableEq, Repr

namespace Kind

/-- Every kind, in the order of the catalogue. -/
def all : List Kind :=
  [auto, bigAuto, smallAuto, uuid, boolean, nullBoolean, smallInteger, integer, bigInteger,
   positiveSmallInteger, positiveInteger, positiveBigInteger, float, decimal, char, text, slug, email,
   url, file, filePath, image, genericIpAddress, ipAddress, commaSeparatedInteger, date, dateTime,
   time, duration, binary, json, foreignKey, manyToOneRel, oneToOne, oneToOneRel, manyToMany,
   manyToManyRel]

theorem mem_all (kind : Kind) : kind ∈ all := by cases kind <;> decide

def name : Kind → String
  | auto => "AutoField"
  | bigAuto => "BigAutoField"
  | smallAuto => "SmallAutoField"
  | uuid => "UuidField"
  | boolean => "BooleanField"
  | nullBoolean => "NullBooleanField"
  | smallInteger => "SmallIntegerField"
  | integer => "IntegerField"
  | bigInteger => "BigIntegerField"
  | positiveSmallInteger => "PositiveSmallIntegerField"
  | positiveInteger => "PositiveIntegerField"
  | positiveBigInteger => "PositiveBigIntegerField"
  | float => "FloatField"
  | decimal => "DecimalField"
  | char => "CharField"
  | text => "TextField"
  | slug => "SlugField"
  | email => "EmailField"
  | url => "UrlField"
  | file => "FileField"
  | filePath => "FilePathField"
  | image => "ImageField"
  | genericIpAddress => "GenericIpAddressField"
  | ipAddress => "IpAddressField"
  | commaSeparatedInteger => "CommaSeparatedIntegerField"
  | date => "DateField"
  | dateTime => "DateTimeField"
  | time => "TimeField"
  | duration => "DurationField"
  | binary => "BinaryField"
  | json => "JsonField"
  | foreignKey => "ForeignKey"
  | manyToOneRel => "ManyToOneRel"
  | oneToOne => "OneToOneField"
  | oneToOneRel => "OneToOneRel"
  | manyToMany => "ManyToManyField"
  | manyToManyRel => "ManyToManyRel"

/-- Second spellings. -/
def acronyms : List (String × Kind) :=
  [("UUIDField", uuid), ("URLField", url), ("GenericIPAddressField", genericIpAddress),
   ("IPAddressField", ipAddress), ("JSONField", json)]

/-- Every spelling of every kind. -/
def spellings : List (String × Kind) := all.map (fun kind => (kind.name, kind)) ++ acronyms

/-- The kind of that name, in either spelling. -/
def ofName? (name : String) : Option Kind := spellings.lookup name

@[simp] theorem ofName?_name (kind : Kind) : ofName? kind.name = some kind := by
  cases kind <;> rfl

/-- A text names a kind exactly when it is the kind's name or its second spelling. -/
theorem ofName?_eq_some_iff {name : String} {kind : Kind} :
    ofName? name = some kind ↔ (name, kind) ∈ spellings := by
  have distinct : (spellings.map (·.1)).Nodup := by decide +kernel
  unfold ofName?
  generalize spellings = table at distinct ⊢
  induction table with
  | nil => simp
  | cons entry table ih =>
    obtain ⟨spelling, other⟩ := entry
    simp only [List.map_cons, List.nodup_cons] at distinct
    by_cases h : name = spelling
    · subst h
      have absent : (name, kind) ∉ table := fun hm =>
        distinct.1 (List.mem_map.2 ⟨_, hm, rfl⟩)
      simp only [List.lookup_cons, beq_self_eq_true, Option.some.injEq, List.mem_cons, Prod.mk.injEq,
        true_and, absent, or_false]
      exact eq_comm
    · have hb : (name == spelling) = false := by simpa using h
      simp [List.lookup_cons, hb, h, ih distinct.2]

/-- Relations between models, as against stored values. -/
def isRelation : Kind → Bool
  | foreignKey | manyToOneRel | oneToOne | oneToOneRel | manyToMany | manyToManyRel => true
  | _ => false

/-- Identities that count up by themselves. -/
def isAuto : Kind → Bool
  | auto | bigAuto | smallAuto => true
  | _ => false

/-- Integers that may not be negative. -/
def isPositive : Kind → Bool
  | positiveSmallInteger | positiveInteger | positiveBigInteger => true
  | _ => false

/-- What values of a kind are; a relation stores none. -/
def valueKind? : Kind → Option ValueKind
  | smallAuto => some .short
  | auto | smallInteger | integer | positiveSmallInteger | positiveInteger => some .int
  | bigAuto | bigInteger | positiveBigInteger => some .long
  | float => some .float
  | decimal => some .double
  | boolean | nullBoolean => some .boolean
  | uuid | char | text | slug | email | url | file | filePath | image | genericIpAddress | ipAddress
  | commaSeparatedInteger | duration => some .string
  | date => some .localDate
  | dateTime => some .localDateTime
  | time => some .localTime
  | binary => some .byteArray
  | json => some .json
  | foreignKey | manyToOneRel | oneToOne | oneToOneRel | manyToMany | manyToManyRel => none

/-- Exactly the relations have no value kind. -/
theorem valueKind?_eq_none_iff (kind : Kind) :
    kind.valueKind? = none ↔ kind.isRelation = true := by
  cases kind <;> decide

end Kind

end EntityGen
