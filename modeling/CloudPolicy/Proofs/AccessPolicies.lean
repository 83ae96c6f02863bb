import CloudPolicy.Proofs.Effects
import CloudPolicy.Proofs.Judgement
import CloudPolicy.Proofs.Rereading
import CloudPolicy.Action.Topics

/-! Access policies whose grants to everybody are removed. The action that removes them and the
filter that looks for grants go through the same statements: statement by statement it is known what
is left of a grant, and the narrowed policy that is stored is read back as those statements. -/

namespace CloudPolicy

/-! ### Grants of single statements -/

namespace Filter.AccessCriteria

/-- The principals of one kind that a statement names. -/
def principals? (kind : String) (statement : Json) : Option Json :=
  (statement.field? "Principal").bind (·.field? kind)

/-- The statement has the effect for a principal. -/
def Grants (effect kind needle : String) (statement : Json) : Prop :=
  statement.stringField? "Effect" = some effect ∧
    (principals? kind statement).any (names needle)

/-- The statements of a policy document. -/
def listed (document : Json) : List Json :=
  ((document.field? "Statement").bind Json.array?).getD []

theorem grantsTo_iff (criteria : AccessCriteria) (document : Json) (kind needle : String) :
    grantsTo (criteria.statements document) kind needle = true ↔
      ∃ statement ∈ listed document, Grants criteria.effect kind needle statement := by
  show ((listed document).filter _).any _ = true ↔ _
  simp only [List.any_eq_true, List.mem_filter, decide_eq_true_eq, and_assoc]
  rfl

/-- Every criterion that is set is met by one of the statements. -/
structure Met (criteria : AccessCriteria) (statements : List Json) : Prop where
  user : ∀ user ∈ criteria.user, ∃ statement ∈ statements,
    Grants criteria.effect "CSP" (userPrincipal user) statement
  organization : ∀ path ∈ criteria.organization, ∃ statement ∈ statements,
    Grants criteria.effect "OrgPath" path statement
  service : ∀ service ∈ criteria.service, ∃ statement ∈ statements,
    Grants criteria.effect "Service" service statement

theorem met_user_iff {user : String} {statements : List Json} :
    Met { user := some user } statements ↔
      ∃ statement ∈ statements, Grants "Allow" "CSP" (userPrincipal user) statement :=
  ⟨fun h => h.user user rfl, fun h => ⟨fun _ hset => Option.some.inj hset ▸ h, nofun, nofun⟩⟩

theorem met_organization_iff {path : String} {statements : List Json} :
    Met { organization := some path } statements ↔
      ∃ statement ∈ statements, Grants "Allow" "OrgPath" path statement :=
  ⟨fun h => h.organization path rfl, fun h => ⟨nofun, fun _ hset => Option.some.inj hset ▸ h, nofun⟩⟩

theorem met_service_iff {service : String} {statements : List Json} :
    Met { service := some service } statements ↔
      ∃ statement ∈ statements, Grants "Allow" "Service" service statement :=
  ⟨fun h => h.service service rfl, fun h => ⟨nofun, nofun, fun _ hset => Option.some.inj hset ▸ h⟩⟩

theorem Met.mono {criteria : AccessCriteria} {statements others : List Json}
    (h : criteria.Met statements) (himp : ∀ kind needle,
      (∃ statement ∈ statements, Grants criteria.effect kind needle statement) →
        ∃ statement ∈ others, Grants criteria.effect kind needle statement) :
    criteria.Met others :=
  ⟨fun user huser => himp _ _ (h.user user huser),
    fun path hpath => himp _ _ (h.organization path hpath),
    fun service hservice => himp _ _ (h.service service hservice)⟩

theorem metBy_iff (criteria : AccessCriteria) (document : Json) :
    criteria.metBy document = true ↔ criteria.Met (listed document) := by
  rw [metBy]
  simp only [Bool.and_eq_true, Option.all_eq_true, grantsTo_iff]
  exact ⟨fun ⟨⟨huser, horganization⟩, hservice⟩ => ⟨huser, horganization, hservice⟩,
    fun ⟨huser, horganization, hservice⟩ => ⟨⟨huser, horganization⟩, hservice⟩⟩

/-- The statements of a policy text: there are none without a text, and every text that is not empty
has to be a document. -/
def statements? (policy : Option String) : Option (List Json) :=
  match policy.filter fun text => !text.isEmpty with
  | none => some []
  | some text => (Json.read? text).map listed

theorem statements?_of_read? {text : String} {document : Json}
    (h : Json.read? text = some document) : statements? (some text) = some (listed document) := by
  have hwritten : text.isEmpty = false := by
    rw [Bool.eq_false_iff, ne_eq, String.isEmpty_iff]
    rintro rfl
    have hempty : Json.read? "" = none := rfl
    rw [hempty] at h
    cases h
  rw [statements?, Option.filter_some, hwritten]
  show (Json.read? text).map listed = _
  rw [h, Option.map_some]

/-- Whether a policy is found depends on its statements alone. -/
theorem grants_of_statements? (criteria : AccessCriteria) {policy : Option String}
    {statements : List Json} (h : statements? policy = some statements) :
    ∃ granted, grants criteria policy = .ok granted ∧
      (granted = true ↔ criteria.Met statements) := by
  rw [grants]
  split
  next hopen =>
    refine ⟨true, rfl, iff_of_true rfl ?_⟩
    simp only [isOpen, Bool.and_eq_true, Option.isNone_iff_eq_none] at hopen
    obtain ⟨⟨huser, horganization⟩, hservice⟩ := hopen
    constructor <;> simp [huser, horganization, hservice]
  next hset =>
    cases hpolicy : policy.filter fun text => !text.isEmpty with
    | none =>
        rw [statements?, hpolicy] at h
        cases h
        refine ⟨false, rfl, iff_of_false Bool.false_ne_true fun hmet => hset ?_⟩
        have hunset {value : Option String} {p : String → Json → Prop}
            (hvalue : ∀ needle ∈ value, ∃ statement ∈ ([] : List Json), p needle statement) :
            value.isNone := by
          rw [Option.isNone_iff_eq_none, Option.eq_none_iff_forall_not_mem]
          intro needle hneedle
          obtain ⟨statement, hstatement, -⟩ := hvalue needle hneedle
          exact List.not_mem_nil hstatement
        rw [isOpen, hunset hmet.user, hunset hmet.organization, hunset hmet.service]
        rfl
    | some text =>
        rw [statements?, hpolicy] at h
        obtain ⟨document, hdocument, rfl⟩ := Option.map_eq_some_iff.1 h
        refine ⟨criteria.metBy document, ?_, metBy_iff criteria document⟩
        show (policyDocument text).map criteria.metBy = _
        rw [policyDocument, hdocument]
        rfl

/-- No text names a user by the wildcard alone but that for every user. -/
theorem userPrincipal_ne {user : String} (h : user ≠ "*") :
    userPrincipal user ≠ "*" ∧ Text.contains "*" (userPrincipal user) = false := by
  rw [userPrincipal, if_neg h]
  have hurn : ("urn:csp:iam::" ++ user ++ ":root").toList =
      'u' :: ("rn:csp:iam::".toList ++ user.toList ++ ":root".toList) := by
    rw [String.toList_append, String.toList_append]
    rfl
  constructor
  · intro hsame
    rw [hsame] at hurn
    cases hurn
  · rw [Text.contains, hurn]
    rfl

/-! ### Statements up to their numbers -/

theorem names_withoutNumbers (needle : String) (j : Json) :
    names needle j.withoutNumbers = names needle j := by
  cases j with
  | array items =>
      rw [Json.withoutNumbers_array]
      simp only [names, List.any_map, Function.comp_def, Json.string?_withoutNumbers]
  | _ => rfl

theorem principals?_withoutNumbers (kind : String) (statement : Json) :
    principals? kind statement.withoutNumbers =
      (principals? kind statement).map Json.withoutNumbers := by
  rw [principals?, principals?, Json.field?_withoutNumbers]
  cases statement.field? "Principal" with
  | none => rfl
  | some principal => exact Json.field?_withoutNumbers principal kind

theorem grants_ignoresNumbers (effect kind needle : String) :
    Json.IgnoresNumbers (Grants effect kind needle) := by
  intro statement
  rw [Grants, Grants, Json.stringField?_withoutNumbers, principals?_withoutNumbers, Option.any_map]
  simp only [names_withoutNumbers]

theorem listed_withoutNumbers (document : Json) :
    listed document.withoutNumbers = (listed document).map Json.withoutNumbers := by
  rw [listed, listed, Json.field?_withoutNumbers]
  cases document.field? "Statement" with
  | none => rfl
  | some statements =>
      show (statements.withoutNumbers.array?).getD [] = (statements.array?.getD []).map _
      rw [Json.array?_withoutNumbers]
      cases statements.array? <;> rfl

end Filter.AccessCriteria

/-! ### Stripping statements -/

namespace Stripped

open Filter.AccessCriteria

variable {statement : Json}

theorem accounts?_eq_some_iff {accounts : Json} :
    principals? "CSP" statement = some accounts ↔ ∃ fields principal, statement = .object fields ∧
      fields.get? "Principal" = some (.object principal) ∧
      principal.get? "CSP" = some accounts := by
  constructor
  · intro h
    obtain ⟨principal, hprincipal, h⟩ := Option.bind_eq_some_iff.1 h
    obtain ⟨fields, hfields, hprincipal⟩ := Option.bind_eq_some_iff.1 hprincipal
    obtain ⟨members, hmembers, h⟩ := Option.bind_eq_some_iff.1 h
    cases statement <;> cases hfields
    cases principal <;> cases hmembers
    exact ⟨_, _, rfl, hprincipal, h⟩
  · rintro ⟨fields, principal, rfl, hprincipal, haccounts⟩
    rw [principals?]
    show (fields.get? "Principal").bind _ = _
    rw [hprincipal]
    exact haccounts

theorem principals?_withAccounts {named : Json} (h : principals? "CSP" statement = some named)
    (accounts : List Json) (kind : String) :
    principals? kind (withAccounts accounts statement) =
      if kind = "CSP" then some (.array accounts) else principals? kind statement := by
  obtain ⟨fields, principal, rfl, hprincipal, -⟩ := accounts?_eq_some_iff.1 h
  have hbefore : principals? kind (.object fields) = principal.get? kind := by
    show (fields.get? "Principal").bind _ = _
    rw [hprincipal]
    rfl
  have hafter : principals? kind (withAccounts accounts (.object fields)) =
      (principal.insert "CSP" (.array accounts)).get? kind := by
    rw [withAccounts, hprincipal]
    show ((fields.insert "Principal" _).get? "Principal").bind _ = _
    rw [StringMap.get?_insert_self]
    rfl
  rw [hafter, hbefore, StringMap.get?_insert]

theorem effect_withAccounts (accounts : List Json) (statement : Json) :
    (withAccounts accounts statement).stringField? "Effect" = statement.stringField? "Effect" := by
  rw [withAccounts.eq_def]
  split
  next fields =>
    split
    next principal _ =>
      show ((fields.insert "Principal" _).get? "Effect").bind _ = (fields.get? "Effect").bind _
      rw [StringMap.get?_insert_of_ne fields (by decide)]
    next => rfl
  next => rfl

/-- The statement has no accounts left without those for everybody. -/
def LosesAccounts (statement : Json) : Prop :=
  match principals? "CSP" statement with
  | some (.array accounts) => ∀ account ∈ accounts, isEverybody account
  | some (.string account) => account = "*"
  | _ => False

/-- What stripping does to a statement: it is dropped, it gets the list of those of its accounts
that are not everybody, or it is kept as it is. -/
inductive Strips (statement : Json) : Option Json → Prop where
  | dropped (hallow : statement.stringField? "Effect" = some "Allow")
      (hloses : LosesAccounts statement) : Strips statement none
  | narrowed {accounts : List Json} (hallow : statement.stringField? "Effect" = some "Allow")
      (haccounts : principals? "CSP" statement = some (.array accounts))
      (hkeeps : ¬ LosesAccounts statement) :
      Strips statement (some (withAccounts
        (accounts.filter fun account => !isEverybody account) statement))
  | kept (hother : statement.stringField? "Effect" = some "Allow" → ¬ LosesAccounts statement ∧
        ∀ accounts, principals? "CSP" statement ≠ some (.array accounts)) :
      Strips statement (some statement)

theorem strips_strip (statement : Json) : Strips statement (strip statement) := by
  rw [strip]
  split
  next hallow =>
    split
    next accounts haccounts =>
      have haccounts : principals? "CSP" statement = some (.array accounts) := haccounts
      have hloses : LosesAccounts statement ↔
          (accounts.filter fun account => !isEverybody account).isEmpty := by
        rw [LosesAccounts, haccounts, List.isEmpty_iff, List.filter_eq_nil_iff]
        simp only [Bool.not_eq_true', Bool.not_eq_false]
      dsimp only
      split
      next hempty => exact .dropped hallow (hloses.2 hempty)
      next hleft => exact .narrowed hallow haccounts fun h => hleft (hloses.1 h)
    next account haccounts =>
      have haccounts : principals? "CSP" statement = some (.string account) := haccounts
      have hloses : LosesAccounts statement ↔ account = "*" := by rw [LosesAccounts, haccounts]
      split
      next hwildcard => exact .dropped hallow (hloses.2 hwildcard)
      next hnamed =>
        refine .kept fun _ => ⟨fun h => hnamed (hloses.1 h), fun accounts harray => ?_⟩
        rw [haccounts] at harray
        cases harray
    next harray hstring =>
      refine .kept fun _ => ⟨fun h => ?_, harray⟩
      rw [LosesAccounts] at h
      split at h
      next accounts haccounts => exact harray accounts haccounts
      next account haccounts => exact hstring account haccounts
      next => exact h
  next hother => exact .kept fun hallow => absurd hallow hother

/-- Narrowed statements keep accounts: what is left is not everybody. -/
theorem not_losesAccounts_withAccounts {accounts : List Json}
    (haccounts : principals? "CSP" statement = some (.array accounts))
    (hkeeps : ¬ LosesAccounts statement) :
    ¬ LosesAccounts (withAccounts (accounts.filter fun account => !isEverybody account)
      statement) := by
  rw [LosesAccounts, haccounts] at hkeeps
  rw [LosesAccounts, principals?_withAccounts haccounts, if_pos rfl]
  intro h
  refine hkeeps fun account haccount => ?_
  by_contra hnamed
  have hleft : account ∈ accounts.filter fun account => !isEverybody account :=
    List.mem_filter.2 ⟨haccount, by simpa using hnamed⟩
  exact hnamed (h account hleft)

/-! ### Grants that are left -/

variable {effect kind needle : String}

/-- Statements of another effect are left as they are. -/
theorem exists_grants_strip_of_ne_allow (heffect : effect ≠ "Allow") (statement : Json) :
    (∃ left ∈ strip statement, Grants effect kind needle left) ↔
      Grants effect kind needle statement := by
  have hno {s : Json} (hallow : s.stringField? "Effect" = some "Allow") :
      ¬ Grants effect kind needle s := by
    rintro ⟨hother, -⟩
    rw [hallow] at hother
    exact heffect (Option.some.inj hother).symm
  generalize hleft : strip statement = left
  cases hleft ▸ strips_strip statement with
  | dropped hallow hloses => simp [hno hallow]
  | narrowed hallow haccounts hkeeps =>
      simp [hno hallow, hno ((effect_withAccounts _ _).trans hallow)]
  | kept hother => simp

theorem names_filter_of_ne (hneedle : needle ≠ "*") (accounts : List Json) :
    names needle (.array (accounts.filter fun account => !isEverybody account)) =
      names needle (.array accounts) := by
  rw [names, names, List.any_filter, Bool.eq_iff_iff]
  simp only [List.any_eq_true, Bool.and_eq_true, decide_eq_true_eq]
  refine exists_congr fun account => and_congr_right fun _ => and_iff_right_of_imp fun haccount => ?_
  simp only [isEverybody, haccount, Option.some.injEq, hneedle, decide_false, Bool.not_false]

/-- No account is lost but everybody. -/
theorem exists_grants_strip_of_account (hneedle : needle ≠ "*")
    (hwildcard : Text.contains "*" needle = false) (statement : Json) :
    (∃ left ∈ strip statement, Grants effect "CSP" needle left) ↔
      Grants effect "CSP" needle statement := by
  generalize hleft : strip statement = left
  cases hleft ▸ strips_strip statement with
  | dropped hallow hloses =>
      simp only [Option.mem_def, reduceCtorEq, false_and, exists_false, false_iff]
      rintro ⟨-, hnames⟩
      rw [LosesAccounts] at hloses
      split at hloses
      next accounts haccounts =>
        rw [haccounts, Option.any_some, ← names_filter_of_ne hneedle] at hnames
        have hnone : (accounts.filter fun account => !isEverybody account) = [] := by
          simpa using hloses
        rw [hnone] at hnames
        cases hnames
      next account haccounts =>
        rw [haccounts, Option.any_some, hloses, names, hwildcard] at hnames
        cases hnames
      next => exact hloses
  | narrowed hallow haccounts hkeeps =>
      simp only [Option.mem_def, Option.some.injEq, exists_eq_left', Grants, effect_withAccounts,
        principals?_withAccounts haccounts, if_pos, haccounts, Option.any_some,
        names_filter_of_ne hneedle]
  | kept hother => simp

/-- A grant to principals of another kind is lost with the accounts of its statement. -/
theorem exists_grants_strip_of_ne_csp (hkind : kind ≠ "CSP") (statement : Json) :
    (∃ left ∈ strip statement, Grants "Allow" kind needle left ∧ ¬ LosesAccounts left) ↔
      Grants "Allow" kind needle statement ∧ ¬ LosesAccounts statement := by
  generalize hleft : strip statement = left
  cases hleft ▸ strips_strip statement with
  | dropped hallow hloses => simp [hloses]
  | narrowed hallow haccounts hkeeps =>
      simp [Grants, effect_withAccounts, principals?_withAccounts haccounts, hkind, hkeeps,
        not_losesAccounts_withAccounts haccounts hkeeps]
  | kept hother => simp

/-- What is left of a statement has accounts. -/
theorem not_losesAccounts_of_mem_strip {left : Json} (h : left ∈ strip statement)
    (hallow : left.stringField? "Effect" = some "Allow") : ¬ LosesAccounts left := by
  cases h ▸ strips_strip statement with
  | narrowed _ haccounts hkeeps => exact not_losesAccounts_withAccounts haccounts hkeeps
  | kept hother => exact (hother hallow).1

/-- An Allow statement whose accounts are one text with a wildcard in it that is not the wildcard. -/
def HidesWildcard (statement : Json) : Prop :=
  statement.stringField? "Effect" = some "Allow" ∧ ∃ account,
    principals? "CSP" statement = some (.string account) ∧ account ≠ "*" ∧
      Text.contains account "*" = true

theorem names_everybody_filter (accounts : List Json) :
    names "*" (.array (accounts.filter fun account => !isEverybody account)) = false := by
  rw [names, List.any_filter, List.any_eq_false]
  intro account _
  rw [isEverybody]
  cases decide (account.string? = some "*") <;> simp

/-- Everybody is still found in a text with a wildcard in it, and nowhere else. -/
theorem grants_everybody_of_mem_strip {left : Json} (h : left ∈ strip statement) :
    Grants "Allow" "CSP" "*" left ↔ HidesWildcard left := by
  refine and_congr_right fun hallow => ?_
  cases h ▸ strips_strip statement with
  | narrowed _ haccounts hkeeps =>
      rw [principals?_withAccounts haccounts, if_pos rfl, Option.any_some, names_everybody_filter]
      simp
  | kept hother =>
      obtain ⟨hkeeps, harray⟩ := hother hallow
      rw [LosesAccounts] at hkeeps
      cases haccounts : principals? "CSP" statement with
      | none => simp
      | some accounts =>
          cases accounts with
          | string account =>
              rw [haccounts] at hkeeps
              have hnamed : account ≠ "*" := hkeeps
              simp [names, hnamed]
          | array accounts => exact absurd haccounts (harray accounts)
          | _ => simp [names]

theorem exists_hidesWildcard_strip (statement : Json) :
    (∃ left ∈ strip statement, HidesWildcard left) ↔ HidesWildcard statement := by
  generalize hleft : strip statement = left
  cases hleft ▸ strips_strip statement with
  | dropped hallow hloses =>
      simp only [Option.mem_def, reduceCtorEq, false_and, exists_false, false_iff]
      rintro ⟨-, account, haccount, hnamed, -⟩
      rw [LosesAccounts, haccount] at hloses
      exact hnamed hloses
  | narrowed hallow haccounts hkeeps =>
      simp [HidesWildcard, principals?_withAccounts haccounts, haccounts]
  | kept hother => simp

/-! ### Stripping up to numbers -/

theorem losesAccounts_ignoresNumbers : Json.IgnoresNumbers LosesAccounts := by
  intro statement
  rw [LosesAccounts, LosesAccounts, principals?_withoutNumbers]
  cases principals? "CSP" statement with
  | none => rfl
  | some accounts =>
      cases accounts with
      | array accounts =>
          rw [Option.map_some, Json.withoutNumbers_array]
          simp only [List.forall_mem_map, isEverybody, Json.string?_withoutNumbers]
      | _ => rfl

theorem hidesWildcard_ignoresNumbers : Json.IgnoresNumbers HidesWildcard := by
  intro statement
  have haccount (account : String) :
      principals? "CSP" statement.withoutNumbers = some (.string account) ↔
        principals? "CSP" statement = some (.string account) := by
    rw [principals?_withoutNumbers]
    cases principals? "CSP" statement with
    | none => rfl
    | some accounts => cases accounts <;> simp [Json.withoutNumbers]
  simp only [HidesWildcard, Json.stringField?_withoutNumbers, haccount]

/-! ### Documents -/

theorem readable_of_mem_strip {depth : Nat} {left : Json} (hstatement : statement.Readable depth)
    (h : left ∈ strip statement) : left.Readable depth := by
  cases h ▸ strips_strip statement with
  | kept => exact hstatement
  | narrowed hallow haccounts hkeeps =>
      obtain ⟨fields, principal, rfl, hprincipal, haccounts⟩ := accounts?_eq_some_iff.1 haccounts
      obtain ⟨depth, rfl, -⟩ := Json.readable_object_iff.1 hstatement
      have hreadable := hstatement.of_get? hprincipal
      obtain ⟨depth, rfl, -⟩ := Json.readable_object_iff.1 hreadable
      obtain ⟨depth, rfl, hitems⟩ := Json.readable_array_iff.1 (hreadable.of_get? haccounts)
      rw [withAccounts, hprincipal]
      refine hstatement.insert (hreadable.insert ?_ _) _
      exact Json.readable_array_iff.2 ⟨depth, rfl, fun account haccount =>
        hitems account (List.mem_filter.1 haccount).1⟩

/-- The statements are those of a document without the grants to everybody, up to their numbers. -/
def Left (statements left : List Json) : Prop :=
  left.map Json.withoutNumbers = (statements.filterMap strip).map Json.withoutNumbers

/-- The stored text is kept or replaced. -/
def stored (text : String) : Stripped → Option String
  | unchanged => some text
  | narrowed text => some text
  | cleared => none

theorem listed_of_get? {fields : StringMap Json} {statements : List Json}
    (h : fields.get? "Statement" = some (.array statements)) :
    listed (.object fields) = statements := by
  show ((fields.get? "Statement").bind Json.array?).getD [] = _
  rw [h]
  rfl

/-- A document without a list of statements has nothing to strip. -/
theorem listed_cases (document : Json) :
    (∃ fields statements, document = .object fields ∧
      fields.get? "Statement" = some (.array statements)) ∨
    (listed document = [] ∧ ofDocument document = unchanged) := by
  rw [ofDocument.eq_def]
  split
  next fields =>
    split
    next statements hstatements => exact .inl ⟨fields, statements, rfl, hstatements⟩
    next hother =>
      refine .inr ⟨?_, rfl⟩
      show ((fields.get? "Statement").bind Json.array?).getD [] = []
      rcases hstatements : fields.get? "Statement" with _ | value
      · rfl
      · cases value with
        | array statements => exact absurd hstatements (hother statements)
        | _ => rfl
  next hother =>
    refine .inr ⟨?_, rfl⟩
    cases document with
    | object fields => exact absurd rfl (hother fields)
    | _ => rfl

theorem readable_insert_left {depth : Nat} {fields : StringMap Json} {statements : List Json}
    (hfields : (Json.object fields).Readable depth)
    (hstatements : fields.get? "Statement" = some (.array statements)) :
    (Json.object (fields.insert "Statement" (.array (statements.filterMap strip)))).Readable
      depth := by
  obtain ⟨depth, rfl, -⟩ := Json.readable_object_iff.1 hfields
  obtain ⟨depth, rfl, hitems⟩ := Json.readable_array_iff.1 (hfields.of_get? hstatements)
  refine hfields.insert (Json.readable_array_iff.2 ⟨depth, rfl, fun left hleft => ?_⟩) _
  obtain ⟨statement, hstatement, hstrip⟩ := List.mem_filterMap.1 hleft
  exact readable_of_mem_strip (hitems statement hstatement) hstrip

/-- What is read back of a document with what is left of its statements. -/
theorem left_reread (fields : StringMap Json) (statements : List Json) :
    Left statements (listed (Json.object
      (fields.insert "Statement" (.array (statements.filterMap strip)))).reread) := by
  rw [Left, ← listed_withoutNumbers, Json.withoutNumbers_reread, listed_withoutNumbers,
    listed_of_get? (StringMap.get?_insert_self _ _ _)]

/-- **What is stored is what is left.** A document is stored so that it is read back as what is left
of its statements. -/
theorem left_ofDocument {text : String} {document : Json} (h : Json.read? text = some document) :
    ∃ left, statements? ((ofDocument document).stored text) = some left ∧
      Left (listed document) left := by
  rcases listed_cases document with ⟨fields, statements, rfl, hstatements⟩ | ⟨hnone, hunchanged⟩
  · have hlisted := listed_of_get? hstatements
    rw [ofDocument, hstatements]
    dsimp only
    split
    next hsame =>
      refine ⟨_, statements?_of_read? h, ?_⟩
      have hsame := Json.withoutNumbers_eq_of_same hsame
      rw [Json.withoutNumbers_array, Json.withoutNumbers_array] at hsame
      rw [Left, hlisted]
      exact (Json.array.inj hsame).symm
    next =>
      split
      next hempty =>
        refine ⟨[], rfl, ?_⟩
        rw [Left, hlisted, List.isEmpty_iff.1 hempty]
      next =>
        have hreadable := readable_insert_left (Json.readable_of_read? h) hstatements
        refine ⟨_, statements?_of_read? (Json.read?_text hreadable), ?_⟩
        rw [hlisted]
        exact left_reread fields statements
  · rw [hunchanged]
    refine ⟨_, statements?_of_read? h, ?_⟩
    rw [Left, hnone]
    rfl

/-! ### Stored policies -/

/-- The second policy is the first one without the grants to everybody. -/
def Reduces (before after : Option String) : Prop :=
  ∃ statements left, statements? before = some statements ∧ statements? after = some left ∧
    Left statements left

variable {p : Json → Prop} {before after : Option String} {statements left : List Json}

/-- A property that stripping keeps is one that reducing a policy keeps. -/
theorem exists_iff_of_reduces (hp : Json.IgnoresNumbers p)
    (hstrip : ∀ statement, (∃ left ∈ strip statement, p left) ↔ p statement)
    (h : Relation.TransGen Reduces before after) (hbefore : statements? before = some statements)
    (hafter : statements? after = some left) :
    (∃ statement ∈ left, p statement) ↔ ∃ statement ∈ statements, p statement := by
  have hstep {before after : Option String} {statements left : List Json}
      (h : Reduces before after) (hbefore : statements? before = some statements)
      (hafter : statements? after = some left) :
      (∃ statement ∈ left, p statement) ↔ ∃ statement ∈ statements, p statement := by
    obtain ⟨_, _, hbefore', hafter', hleft⟩ := h
    cases hbefore.symm.trans hbefore'
    cases hafter.symm.trans hafter'
    rw [hp.exists_congr hleft]
    simp only [List.mem_filterMap]
    constructor
    · rintro ⟨left, ⟨statement, hstatement, hstrips⟩, hleft⟩
      exact ⟨statement, hstatement, (hstrip statement).1 ⟨left, hstrips, hleft⟩⟩
    · rintro ⟨statement, hstatement, hkept⟩
      obtain ⟨left, hstrips, hleft⟩ := (hstrip statement).2 hkept
      exact ⟨left, ⟨statement, hstatement, hstrips⟩, hleft⟩
  induction h generalizing left with
  | single h => exact hstep h hbefore hafter
  | tail _ h ih =>
      obtain ⟨middle, _, hmiddle, -⟩ := id h
      exact (hstep h hmiddle hafter).trans (ih hmiddle)

/-- What holds of every statement that is left by stripping holds of those of a reduced policy. -/
theorem forall_of_reduces (hp : Json.IgnoresNumbers p)
    (hstrip : ∀ statement, ∀ left ∈ strip statement, p left)
    (h : Relation.TransGen Reduces before after) (hafter : statements? after = some left) :
    ∀ statement ∈ left, p statement := by
  obtain ⟨middle, -, statements, _, -, hafter', hleft⟩ := Relation.TransGen.tail'_iff.1 h
  cases hafter.symm.trans hafter'
  intro statement hstatement
  by_contra hfails
  have hnot : Json.IgnoresNumbers fun j => ¬ p j := fun j => not_congr (hp j)
  obtain ⟨left, hleft, hfails⟩ := (hnot.exists_congr hleft).1 ⟨statement, hstatement, hfails⟩
  obtain ⟨statement, -, hstrips⟩ := List.mem_filterMap.1 hleft
  exact hfails (hstrip statement left hstrips)

theorem exists_statements?_of_reduces (h : Relation.TransGen Reduces before after) :
    ∃ left, statements? after = some left := by
  obtain ⟨middle, -, statements, left, -, hafter, -⟩ := Relation.TransGen.tail'_iff.1 h
  exact ⟨left, hafter⟩

/-! ### What is found in a reduced policy -/

section

variable {criteria : Filter.AccessCriteria} {needle : String}
  (h : Relation.TransGen Reduces before after) (hbefore : statements? before = some statements)
  (hafter : statements? after = some left)

include h hbefore hafter

/-- Everybody is found where a text hides the wildcard. -/
theorem met_everybody_iff :
    Met { user := some "*" } left ↔ ∃ statement ∈ statements, HidesWildcard statement := by
  have hsame : ∀ statement ∈ left, Grants "Allow" "CSP" "*" statement ↔ HidesWildcard statement :=
    forall_of_reduces (fun statement => iff_congr (grants_ignoresNumbers _ _ _ statement)
      (hidesWildcard_ignoresNumbers statement)) (fun _ _ => grants_everybody_of_mem_strip) h hafter
  rw [met_user_iff, ← exists_iff_of_reduces hidesWildcard_ignoresNumbers exists_hidesWildcard_strip
    h hbefore hafter]
  exact exists_congr fun statement => and_congr_right (hsame statement)

/-- Every account is found where it was. -/
theorem met_user_iff_of_reduces {user : String} (huser : user ≠ "*") :
    Met { user := some user } left ↔ Met { user := some user } statements := by
  obtain ⟨hneedle, hwildcard⟩ := userPrincipal_ne huser
  rw [met_user_iff, met_user_iff]
  exact exists_iff_of_reduces (grants_ignoresNumbers _ _ _)
    (exists_grants_strip_of_account hneedle hwildcard) h hbefore hafter

/-- What has another effect is found where it was. -/
theorem met_iff_of_ne_allow (heffect : criteria.effect ≠ "Allow") :
    criteria.Met left ↔ criteria.Met statements := by
  have hsame (kind needle : String) :
      (∃ statement ∈ left, Grants criteria.effect kind needle statement) ↔
        ∃ statement ∈ statements, Grants criteria.effect kind needle statement :=
    exists_iff_of_reduces (grants_ignoresNumbers _ _ _) (exists_grants_strip_of_ne_allow heffect)
      h hbefore hafter
  exact ⟨fun hmet => hmet.mono fun kind needle => (hsame kind needle).1,
    fun hmet => hmet.mono fun kind needle => (hsame kind needle).2⟩

/-- A grant to others than accounts is found where a statement with it keeps its accounts. -/
theorem exists_grants_iff_of_ne_csp {kind : String} (hkind : kind ≠ "CSP") :
    (∃ statement ∈ left, Grants "Allow" kind needle statement) ↔
      ∃ statement ∈ statements, Grants "Allow" kind needle statement ∧
        ¬ LosesAccounts statement := by
  have hkept : ∀ statement ∈ left,
      Grants "Allow" kind needle statement → ¬ LosesAccounts statement := by
    refine forall_of_reduces (fun statement => ?_)
      (fun _ _ hstrip hgrant => not_losesAccounts_of_mem_strip hstrip hgrant.1) h hafter
    rw [grants_ignoresNumbers _ _ _ statement, losesAccounts_ignoresNumbers statement]
  have hboth : Json.IgnoresNumbers fun statement =>
      Grants "Allow" kind needle statement ∧ ¬ LosesAccounts statement := fun statement =>
    and_congr (grants_ignoresNumbers _ _ _ statement)
      (not_congr (losesAccounts_ignoresNumbers statement))
  rw [← exists_iff_of_reduces hboth (exists_grants_strip_of_ne_csp hkind) h hbefore hafter]
  exact exists_congr fun statement => and_congr_right fun hstatement =>
    (and_iff_left_of_imp (hkept statement hstatement)).symm

end

end Stripped

end CloudPolicy
