/-
Domains.

A domain is a family of values with an identity and three rules: which values
are success, which generic condition comes nearest to a value, and which other
statuses mean the same as a value. The rules may read the outside state of the
setting. Nothing ties the rules of one domain to each other or to those of
another: two domains may share an identity, and a rule may recognise anything.

Most domains leave the third rule to `defaultRule`: it recognises its own domain
by value and the generic domain by condition, and nothing else.
-/
import TaggedStatus.View

set_option autoImplicit false

namespace TaggedStatus

/-- The identity of the generic domain (`GENERIC_DOMAIN_ID`). -/
def DomainId.generic : DomainId := .ofNum 0x746d6354f4f733e9a5c13b6e0d4f8e01

/-- A domain (`StaticDomain`): an identity, a type of values, and the rules for judging
them. -/
structure Domain (S : Setting) where
  /-- The identity (`ID`); codes are of the same domain when these agree. -/
  id : DomainId
  /-- The name under which the domain appears in messages (`NAME`). -/
  name : String
  /-- How the domain itself is shown to a developer. -/
  tag : String
  /-- The type of the values. -/
  type : ValueType S
  /-- Is this value success (`success`)? -/
  success : S.Ambient → type.Carrier → Bool
  /-- The generic condition nearest to this value, or `unknown` (`generic_code`). -/
  condition : S.Ambient → type.Carrier → Condition
  /-- Does this value mean the same as the status seen (`equivalent`)? -/
  recognises : S.Ambient → type.Carrier → (depth : Nat) → View S depth → Bool

namespace Domain

variable {S : Setting}

/-- The values of a domain. -/
abbrev Value (D : Domain S) : Type := D.type.Carrier

/-! ## The default rule -/

/-- What a domain recognises unless it says otherwise (the body that
`StaticDomain::equivalent` has by default). A status that bears the
domain's identity is recognised by its value, and by nothing else; one of the
generic domain is recognised if it is the condition nearest to the value, unless
that is `unknown`. -/
def defaultRule (id : DomainId) (T : ValueType S) (v : T.Carrier) (mine : Condition)
    (other : Face S) : Bool :=
  match other.id with
  | none => false
  | some theirs =>
      if theirs = id then
        match other.valueAs T with
        | none => false
        | some w => T.format.equal w v
      else if theirs = .generic then
        mine != .unknown && other.conditionHeld == some mine
      else false

section DefaultRule

variable {id : DomainId} {T : ValueType S} {v : T.Carrier} {mine : Condition} {other : Face S}

/-- A status of the domain's own is recognised by its value. -/
theorem defaultRule_of_own (h : other.id = some id) :
    defaultRule id T v mine other = true
      ↔ ∃ w, other.valueAs T = some w ∧ T.format.equal w v = true := by
  rw [defaultRule, h]
  simp only [if_true]
  cases other.valueAs T <;> simp

/-- A status of the generic domain is recognised by the condition it holds, unless
the domain claims to be the generic one itself. -/
theorem defaultRule_of_generic (h : other.id = some .generic) (hid : id ≠ .generic) :
    defaultRule id T v mine other = true
      ↔ mine ≠ .unknown ∧ other.conditionHeld = some mine := by
  rw [defaultRule, h]
  simp [hid.symm]

/-- No other status is recognised. -/
theorem defaultRule_of_foreign {theirs : DomainId} (h : other.id = some theirs) (hid : theirs ≠ id)
    (hgeneric : theirs ≠ .generic) : defaultRule id T v mine other = false := by
  rw [defaultRule, h]
  simp [hid, hgeneric]

end DefaultRule

/-- The domain leaves the question of what it recognises to the default rule. -/
def UsesDefaultRule (D : Domain S) : Prop :=
  ∀ amb v depth (view : View S depth),
    D.recognises amb v depth view = defaultRule D.id D.type v (D.condition amb v) view.face

/-- A domain with the default rule. -/
def standard (id : DomainId) (name tag : String) (type : ValueType S)
    (success : S.Ambient → type.Carrier → Bool)
    (condition : S.Ambient → type.Carrier → Condition) : Domain S where
  id := id
  name := name
  tag := tag
  type := type
  success := success
  condition := condition
  recognises amb v _ view := defaultRule id type v (condition amb v) view.face

theorem usesDefaultRule_standard (id : DomainId) (name tag : String) (type : ValueType S)
    (success : S.Ambient → type.Carrier → Bool)
    (condition : S.Ambient → type.Carrier → Condition) :
    (standard id name tag type success condition).UsesDefaultRule :=
  fun _ _ _ _ => rfl

/-! ## The generic domain -/

/-- The generic domain recognises the same condition in its own domain
(`GenericDomain::equivalent`). -/
def genericRule (c : Condition) (other : Face S) : Bool :=
  other.id == some .generic && other.conditionHeld == some c

theorem genericRule_iff {c : Condition} {other : Face S} :
    genericRule c other = true ↔ other.id = some .generic ∧ other.conditionHeld = some c := by
  rw [genericRule, Bool.and_eq_true, beq_iff_eq, beq_iff_eq]

/-- The domain of the generic conditions (`GenericDomain`): each is its own nearest
condition. -/
def generic : Domain S where
  id := .generic
  name := "generic"
  tag := "GenericDomain"
  type := .condition
  success _ c := Condition.isSuccess c
  condition _ c := c
  recognises _ c _ view := genericRule c view.face

/-- The rule of the generic domain is the default rule under its identity; there
the question about the nearest condition never comes up. -/
theorem defaultRule_eq_genericRule (c mine : Condition) (other : Face S) :
    defaultRule .generic .condition c mine other = genericRule c other := by
  cases hid : other.id with
  | none => simp [genericRule, defaultRule, hid]
  | some theirs =>
      by_cases htheirs : theirs = .generic
      · subst htheirs
        rw [Bool.eq_iff_iff, defaultRule_of_own hid, genericRule_iff]
        simp [hid, Face.conditionHeld, ValueType.format, Condition.format]
      · rw [defaultRule_of_foreign hid htheirs htheirs, eq_comm, Bool.eq_false_iff, ne_eq,
          genericRule_iff, hid, Option.some.injEq]
        exact fun h => htheirs h.1

theorem usesDefaultRule_generic : (generic : Domain S).UsesDefaultRule :=
  fun _ c _ view => (defaultRule_eq_genericRule c c view.face).symm

end Domain

end TaggedStatus
