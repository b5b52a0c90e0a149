import ClusterClient.CommandLine.Arguments
import ClusterClient.Proofs.Text.Numerals

namespace ClusterClient.CommandLine

/-!
# Writing options

An option that is written by its long name, with its value behind an equals
sign, is read as this option and this value, whatever characters the value has.
So options with different names and acceptable values are read one by one, and
every command of the tool can be asked for.
-/

/-! Numbers as the values of options. -/

/-- A number that is not negative is read back from its decimal text. -/
theorem readSigned64?_toString
    {number : Nat}
    (inRange : number ≤ largestSigned64) :
    readSigned64? (toString number) = some (number : Int) := by
  have read :
      Text.readUnsigned largestSigned64 (Nat.toDigits 10 number) = .ok number :=
    Text.readUnsigned_toDigits inRange
  rw [readSigned64?, Nat.toString_eq_repr, Nat.toList_repr]
  unfold Text.readSigned
  split
  · rename_i minus
    have digit : Char.isDigit '-' :=
      Nat.isDigit_of_mem_toDigits (by decide) (by decide)
        (minus ▸ List.mem_cons_self)
    cases digit
  · rw [read]
    rfl

theorem readUnsigned32?_toString
    {number : Nat}
    (inRange : number ≤ largestUnsigned32) :
    readUnsigned32? (toString number) = some number := by
  have isWide : largestUnsigned32 ≤ largestSigned64 := by decide
  have inWideRange : (0 : Int) ≤ number ∧ (number : Int) ≤ largestUnsigned32 :=
    ⟨Int.natCast_nonneg number, Int.ofNat_le.mpr inRange⟩
  rw [readUnsigned32?, readSigned64?_toString (Nat.le_trans inRange isWide)]
  dsimp only
  rw [if_pos inWideRange, Int.toNat_natCast]

/-! Options one by one. -/

/-- An option by its long name, with its value. -/
def longOption (name value : String) : String :=
  "--" ++ name ++ "=" ++ value

theorem longShape_option
    {name : String}
    (noEquals : '=' ∉ name.toList)
    (value : String) :
    longShape (name.toList ++ '=' :: value.toList) =
      .long name (some value) := by
  have plain : ∀ character ∈ name.toList, (character != '=') = true := by
    intro character member
    exact bne_iff_ne.mpr fun same => noEquals (same ▸ member)
  unfold longShape
  rw [List.takeWhile_append_of_pos plain, List.dropWhile_append_of_pos plain]
  simp

theorem shapeOf_longOption
    {name : String}
    (noEquals : '=' ∉ name.toList)
    (value : String) :
    shapeOf (longOption name value) = .long name (some value) := by
  have characters :
      (longOption name value).toList =
        '-' :: '-' :: (name.toList ++ '=' :: value.toList) := by
    simp [longOption, String.toList_append]
  rw [← longShape_option noEquals value, shapeOf, characters]
  cases name.toList <;> rfl

/-- An option is found by its name, which cannot be taken for anything else. -/
def AreUnambiguous (rules : List OptionRule) : Prop :=
  ∀ rule ∈ rules,
    rules.find? (fun other => other.name = rule.name) = some rule ∧
      rule.name ≠ "help" ∧
      '=' ∉ rule.name.toList

theorem areUnambiguous_incrementRules : AreUnambiguous incrementRules := by
  unfold AreUnambiguous
  decide

theorem areUnambiguous_getMetaRules : AreUnambiguous getMetaRules := by
  unfold AreUnambiguous
  decide

/-- Options with their values. -/
abbrev Options := List (OptionRule × String)

namespace Options

/-- The arguments that some options are written as. -/
def arguments (options : Options) : List String :=
  options.map fun option => longOption option.1.name option.2

/-- The values of some options under their names, the last option first. -/
def values (options : Options) : List (String × String) :=
  (options.map fun option => (option.1.name, option.2)).reverse

end Options

section Reading

variable {rules : List OptionRule}
variable (unambiguous : AreUnambiguous rules) (plainAllowed : Nat)

include unambiguous

/-- An option that comes for the first time adds its value. -/
theorem readArguments_longOption
    {rule : OptionRule}
    {value : String}
    {given : Given}
    (isRule : rule ∈ rules)
    (accepts : rule.kind.accepts value)
    (isFirst : given.value? rule.name = none)
    (rest : List String) :
    readArguments rules plainAllowed none given
        (longOption rule.name value :: rest) =
      readArguments rules plainAllowed none
        { given with values := (rule.name, value) :: given.values } rest := by
  obtain ⟨found, noHelp, noEquals⟩ := unambiguous rule isRule
  have used :
      useLong rules rule.name (some value) = .ok (.complete rule value) := by
    rw [useLong, if_neg noHelp, found]
    rfl
  have added :
      given.addValue rule value =
        .ok { given with values := (rule.name, value) :: given.values } := by
    rw [Given.addValue, if_neg]
    simp [isFirst, accepts]
  rw [readArguments, shapeOf_longOption noEquals]
  dsimp only
  rw [used]
  change
    (given.addValue rule value >>= fun given =>
      readArguments rules plainAllowed none given rest) = _
  rw [added]
  rfl

/-- Options with different names are read one by one. -/
theorem readArguments_options
    {options : Options}
    (areOptions : ∀ option ∈ options,
      option.1 ∈ rules ∧ option.1.kind.accepts option.2)
    (distinct : (options.map (·.1.name)).Nodup)
    (given : Given)
    (areFirst : ∀ option ∈ options, given.value? option.1.name = none) :
    readArguments rules plainAllowed none given options.arguments =
      .ok { given with values := options.values ++ given.values } := by
  induction options generalizing given with
  | nil => rfl
  | cons option rest inductionHypothesis =>
      obtain ⟨⟨isRule, accepts⟩, others⟩ := List.forall_mem_cons.mp areOptions
      obtain ⟨isFirst, othersFirst⟩ := List.forall_mem_cons.mp areFirst
      obtain ⟨isNew, othersDistinct⟩ := List.nodup_cons.mp distinct
      have stillFirst : ∀ other ∈ rest,
          List.lookup other.1.name
              ((option.1.name, option.2) :: given.values) =
            none := by
        intro other member
        have differs : other.1.name ≠ option.1.name := fun same =>
          isNew (List.mem_map.mpr ⟨other, member, same⟩)
        rw [List.lookup_cons, beq_false_of_ne differs]
        exact othersFirst other member
      calc
        _ = readArguments rules plainAllowed none
              { given with values := (option.1.name, option.2) :: given.values }
              (Options.arguments rest) :=
            readArguments_longOption unambiguous plainAllowed isRule accepts
              isFirst _
        _ = _ := inductionHypothesis others othersDistinct _ stillFirst
        _ = _ := by simp [Options.values]

/-- So the values of a command are those of the options that were written. -/
theorem readArguments_nothing
    {options : Options}
    (areOptions : ∀ option ∈ options,
      option.1 ∈ rules ∧ option.1.kind.accepts option.2)
    (distinct : (options.map (·.1.name)).Nodup) :
    readArguments rules plainAllowed none .nothing options.arguments =
      .ok ⟨options.values, []⟩ := by
  rw [readArguments_options unambiguous plainAllowed areOptions distinct
    .nothing fun _ _ => rfl]
  simp [Given.nothing]

end Reading

/-! The arguments of the encoding commands. -/

/-- A signed number in decimal. -/
def signedText (word : Int64) : String :=
  toString word.toInt

/-- An unsigned number in decimal. -/
def unsignedText (word : UInt32) : String :=
  toString word.toNat

theorem readSigned64?_signedText
    {word : Int64}
    (positive : 0 ≤ word.toInt) :
    readSigned64? (signedText word) = some word.toInt := by
  obtain ⟨number, isNumber⟩ := Int.eq_ofNat_of_zero_le positive
  have below := word.toInt_lt
  rw [signedText, isNumber] at *
  refine readSigned64?_toString ?_
  change number ≤ 9223372036854775807
  omega

theorem readUnsigned32?_unsignedText (word : UInt32) :
    readUnsigned32? (unsignedText word) = some word.toNat :=
  readUnsigned32?_toString (Nat.le_of_lt_succ word.toNat_lt)

/-- The option for a collection that is given. -/
def collectionOption (collection : Option UInt32) : Options :=
  (collection.map fun number => (collectionRule, unsignedText number)).toList

/-- The options of an increment with their values. -/
def incrementOptions
    (key : String)
    (delta : Int64)
    (initial : Option Int64)
    (expiry : UInt32)
    (collection : Option UInt32)
    (correlation : UInt32) : Options :=
  [(keyRule, key), (⟨"delta", 'd', .signed64⟩, signedText delta)] ++
    (initial.map fun value =>
      (⟨"initial", 'i', .signed64⟩, signedText value)).toList ++
    (⟨"expiry", 'e', .unsigned32⟩, unsignedText expiry) ::
    collectionOption collection ++
    [(⟨"opaque", 'o', .unsigned32⟩, unsignedText correlation)]

/-- The options of a metadata probe with their values. -/
def getMetaOptions (key : String) (collection : Option UInt32) : Options :=
  (keyRule, key) :: collectionOption collection

/-- Every increment can be asked for, whatever its key begins with. -/
theorem readCommand_increment
    {delta : Int64}
    {initial : Option Int64}
    (deltaPositive : 0 ≤ delta.toInt)
    (initialPositive : ∀ value ∈ initial, 0 ≤ value.toInt)
    (key : String)
    (expiry : UInt32)
    (collection : Option UInt32)
    (correlation : UInt32) :
    readCommand
        ("encode-increment" ::
          (incrementOptions key delta initial expiry collection
            correlation).arguments) =
      .ok
        (.encodeIncrement key delta initial expiry collection correlation) := by
  let options :=
    incrementOptions key delta initial expiry collection correlation
  have isDelta := readSigned64?_signedText deltaPositive
  have isInitial := fun value isValue =>
    readSigned64?_signedText (initialPositive value isValue)
  have areOptions : ∀ option ∈ options,
      option.1 ∈ incrementRules ∧ option.1.kind.accepts option.2 := by
    cases initial <;> cases collection <;>
      simp [options, incrementOptions, collectionOption, incrementRules,
        keyRule, collectionRule, ValueKind.accepts, isDelta, isInitial,
        readUnsigned32?_unsignedText]
  have distinct : (options.map (·.1.name)).Nodup := by
    cases initial <;> cases collection <;>
      simp [options, incrementOptions, collectionOption, keyRule,
        collectionRule]
  have read :
      readArguments incrementRules 0 none .nothing options.arguments =
        .ok ⟨options.values, []⟩ :=
    readArguments_nothing areUnambiguous_incrementRules 0 areOptions distinct
  change readIncrement options.arguments = _
  rw [readIncrement, read]
  cases initial <;> cases collection <;>
    simp [options, Options.values, incrementOptions, collectionOption, keyRule,
      collectionRule, Given.require, Given.value?, Given.signed64?,
      Given.unsigned32?, List.lookup_cons, isDelta, isInitial,
      readUnsigned32?_unsignedText, bind, Except.bind, pure, Except.pure]

/-- Every metadata probe can be asked for, whatever its key begins with. -/
theorem readCommand_getMeta (key : String) (collection : Option UInt32) :
    readCommand
        ("encode-get-meta" :: (getMetaOptions key collection).arguments) =
      .ok (.encodeGetMeta key collection) := by
  let options := getMetaOptions key collection
  have areOptions : ∀ option ∈ options,
      option.1 ∈ getMetaRules ∧ option.1.kind.accepts option.2 := by
    cases collection <;>
      simp [options, getMetaOptions, collectionOption, getMetaRules, keyRule,
        collectionRule, ValueKind.accepts, readUnsigned32?_unsignedText]
  have distinct : (options.map (·.1.name)).Nodup := by
    cases collection <;>
      simp [options, getMetaOptions, collectionOption, keyRule, collectionRule]
  have read :
      readArguments getMetaRules 0 none .nothing options.arguments =
        .ok ⟨options.values, []⟩ :=
    readArguments_nothing areUnambiguous_getMetaRules 0 areOptions distinct
  change readGetMeta options.arguments = _
  rw [readGetMeta, read]
  cases collection <;>
    simp [options, Options.values, getMetaOptions, collectionOption, keyRule,
      collectionRule, Given.require, Given.value?, Given.unsigned32?,
      List.lookup_cons, readUnsigned32?_unsignedText, bind, Except.bind, pure,
      Except.pure]

end ClusterClient.CommandLine
