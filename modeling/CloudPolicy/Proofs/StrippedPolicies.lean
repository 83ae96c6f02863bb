import CloudPolicy.Proofs.AccessPolicies

/-! What removing the grants to everybody makes of a policy text. The rewriting of the statements is
told by relations between documents, without the functions that carry it out; from them it follows
when a text is kept, cleared or replaced, and that a text that was replaced is kept the next time.
-/

namespace CloudPolicy

namespace Json

/-- The second object has the value under the key, and the fields of the first one otherwise. -/
inductive Updates (key : String) (value : Json) : Json → Json → Prop where
  | object {before after : StringMap Json} (hsorted : after.Sorted)
      (hvalue : after.get? key = some value)
      (hothers : ∀ other, other ≠ key → after.get? other = before.get? other) :
      Updates key value (object before) (object after)

theorem Updates.unique {key : String} {value before after other : Json}
    (h : Updates key value before after) (hother : Updates key value before other) :
    after = other := by
  obtain ⟨hsorted, hvalue, hothers⟩ := h
  cases hother with
  | object hsorted' hvalue' hothers' =>
  refine congrArg Json.object (StringMap.eq_of_get?_eq hsorted hsorted' fun each => ?_)
  by_cases heach : each = key
  · rw [heach, hvalue, hvalue']
  · rw [hothers each heach, hothers' each heach]

theorem updates_insert {key : String} {value : Json} {fields : StringMap Json}
    (hsorted : fields.Sorted) :
    Updates key value (object fields) (object (fields.insert key value)) :=
  .object (StringMap.sorted_insert hsorted key value) (StringMap.get?_insert_self _ _ _)
    fun _ hother => StringMap.get?_insert_of_ne _ hother _

theorem updates_object_iff {key : String} {value after : Json} {fields : StringMap Json}
    (hsorted : fields.Sorted) :
    Updates key value (object fields) after ↔ after = object (fields.insert key value) :=
  ⟨fun h => h.unique (updates_insert hsorted), fun h => h ▸ updates_insert hsorted⟩

/-- The last field of an object is updated in its place. -/
theorem updates_obj (fields : List (String × Json)) (key : String) (old value : Json) :
    Updates key value (obj (fields ++ [(key, old)])) (obj (fields ++ [(key, value)])) := by
  have hlast (last : Json) : StringMap.ofList (fields ++ [(key, last)]) =
      (StringMap.ofList fields).insert key last := by
    simp only [StringMap.ofList, StringMap.insertAll, List.foldl_append, List.foldl_cons,
      List.foldl_nil]
  have hsorted : (StringMap.ofList fields).Sorted :=
    StringMap.sorted_insertAll StringMap.sorted_empty fields
  unfold obj
  rw [hlast, hlast, ← StringMap.insert_insert _ key old value]
  exact updates_insert (StringMap.sorted_insert hsorted key old)

theorem updates_self {key : String} {value j : Json} (h : j.Ordered)
    (hvalue : j.field? key = some value) : Updates key value j j := by
  cases h with
  | object hsorted hfields => exact .object hsorted hvalue fun _ _ => rfl
  | _ => cases hvalue

theorem Ordered.of_field? {key : String} {value j : Json} (h : j.Ordered)
    (hvalue : j.field? key = some value) : value.Ordered := by
  cases h with
  | object hsorted hfields => exact hfields _ (StringMap.mem_entries_of_get? hvalue)
  | _ => cases hvalue

theorem IgnoresNumbers.forall_congr {p : Json → Prop} (hp : IgnoresNumbers p) {xs ys : List Json}
    (h : xs.map withoutNumbers = ys.map withoutNumbers) :
    (∀ x ∈ xs, p x) ↔ ∀ y ∈ ys, p y := by
  have hmap (xs : List Json) : (∀ x ∈ xs, p x) ↔ ∀ x ∈ xs.map withoutNumbers, p x := by
    simp only [List.forall_mem_map, hp _]
  rw [hmap xs, h, ← hmap ys]

end Json

namespace Stripped

open Filter.AccessCriteria (principals? listed)

variable {statement : Json}

/-! ### Single statements -/

/-- The second statement has other accounts, and is the first one otherwise. -/
def Renames (accounts : List Json) (statement revised : Json) : Prop :=
  ∃ principal narrowed, statement.field? "Principal" = some principal ∧
    Json.Updates "CSP" (.array accounts) principal narrowed ∧
    Json.Updates "Principal" narrowed statement revised

theorem renames_iff (hordered : statement.Ordered) {named : Json}
    (hnamed : principals? "CSP" statement = some named) {accounts : List Json} {revised : Json} :
    Renames accounts statement revised ↔ revised = withAccounts accounts statement := by
  obtain ⟨fields, members, rfl, hprincipal, -⟩ := accounts?_eq_some_iff.1 hnamed
  have hfield : (Json.object fields).field? "Principal" = some (.object members) := hprincipal
  cases hordered.of_field? hfield with
  | object hmembers _ =>
  cases hordered with
  | object hsorted _ =>
  unfold Renames
  simp only [hfield, Option.some.injEq, exists_and_left, exists_eq_left',
    Json.updates_object_iff hmembers, exists_eq_left, Json.updates_object_iff hsorted,
    withAccounts, hprincipal]

/-- What becomes of a statement. An Allow statement with a list of accounts loses every `*` of the
list, and is dropped with its last account; an Allow statement for `*` alone is dropped, and all
others stay as they are. -/
inductive Revises (statement : Json) : Option Json → Prop where
  | narrowed {accounts : List Json} {revised : Json}
      (hallow : statement.stringField? "Effect" = some "Allow")
      (haccounts : principals? "CSP" statement = some (.array accounts))
      (hsome : ∃ account ∈ accounts, account.string? ≠ some "*")
      (hrevised : Renames (accounts.filter fun account => account.string? ≠ some "*") statement
        revised) :
      Revises statement (some revised)
  | emptied {accounts : List Json} (hallow : statement.stringField? "Effect" = some "Allow")
      (haccounts : principals? "CSP" statement = some (.array accounts))
      (hnone : ∀ account ∈ accounts, account.string? = some "*") : Revises statement none
  | withdrawn (hallow : statement.stringField? "Effect" = some "Allow")
      (haccounts : principals? "CSP" statement = some (.string "*")) : Revises statement none
  | kept (hother : statement.stringField? "Effect" = some "Allow" →
        (∀ accounts, principals? "CSP" statement ≠ some (.array accounts)) ∧
          principals? "CSP" statement ≠ some (.string "*")) :
      Revises statement (some statement)

theorem filter_not_isEverybody (accounts : List Json) :
    (accounts.filter fun account => !isEverybody account) =
      accounts.filter fun account => account.string? ≠ some "*" := by
  congr 1
  funext account
  rw [isEverybody, decide_not]

/-- The accounts of a statement decide what becomes of it. -/
theorem strip_of_accounts (hallow : statement.stringField? "Effect" = some "Allow")
    {accounts : List Json} (haccounts : principals? "CSP" statement = some (.array accounts)) :
    strip statement =
      if ∀ account ∈ accounts, account.string? = some "*" then none
      else some (withAccounts (accounts.filter fun account => account.string? ≠ some "*")
        statement) := by
  have haccounts : accounts? statement = some (.array accounts) := haccounts
  unfold strip
  simp only [if_pos hallow, haccounts, filter_not_isEverybody, List.isEmpty_iff,
    List.filter_eq_nil_iff, decide_eq_true_eq, not_not, ne_eq]

theorem losesAccounts_iff :
    LosesAccounts statement ↔ principals? "CSP" statement = some (.string "*") ∨
      ∃ accounts, principals? "CSP" statement = some (.array accounts) ∧
        ∀ account ∈ accounts, account.string? = some "*" := by
  unfold LosesAccounts
  simp only [isEverybody, decide_eq_true_eq]
  cases principals? "CSP" statement with
  | none => simp
  | some accounts => cases accounts <;> simp

theorem revises_strip (hordered : statement.Ordered) : Revises statement (strip statement) := by
  generalize hstrip : strip statement = revised
  cases hstrip ▸ strips_strip statement with
  | dropped hallow hloses =>
      rcases losesAccounts_iff.1 hloses with haccounts | ⟨accounts, haccounts, hnone⟩
      · exact .withdrawn hallow haccounts
      · exact .emptied hallow haccounts hnone
  | narrowed hallow haccounts hkeeps =>
      rw [filter_not_isEverybody]
      refine .narrowed hallow haccounts ?_ ((renames_iff hordered haccounts).2 rfl)
      by_contra hnone
      push Not at hnone
      exact hkeeps (losesAccounts_iff.2 (.inr ⟨_, haccounts, hnone⟩))
  | kept hother =>
      refine .kept fun hallow => ⟨(hother hallow).2, fun haccounts => ?_⟩
      exact (hother hallow).1 (losesAccounts_iff.2 (.inl haccounts))

theorem revises_iff (hordered : statement.Ordered) {revised : Option Json} :
    Revises statement revised ↔ revised = strip statement := by
  constructor
  · intro h
    cases h with
    | narrowed hallow haccounts hsome hrevised =>
        rw [strip_of_accounts hallow haccounts, if_neg (by simpa using hsome),
          (renames_iff hordered haccounts).1 hrevised]
    | emptied hallow haccounts hnone =>
        rw [strip_of_accounts hallow haccounts, if_pos hnone]
    | withdrawn hallow haccounts =>
        have haccounts : accounts? statement = some (.string "*") := haccounts
        rw [strip, if_pos hallow, haccounts]
        rfl
    | kept hother =>
        generalize hstrip : strip statement = revised
        cases hstrip ▸ strips_strip statement with
        | dropped hallow hloses =>
            rcases losesAccounts_iff.1 hloses with haccounts | ⟨accounts, haccounts, -⟩
            · exact absurd haccounts (hother hallow).2
            · exact absurd haccounts ((hother hallow).1 accounts)
        | narrowed hallow haccounts _ => exact absurd haccounts ((hother hallow).1 _)
        | kept => rfl
  · rintro rfl
    exact revises_strip hordered

/-! ### Lists of statements -/

/-- What becomes of a list of statements: of each in turn what becomes of it. -/
inductive Rewrites : List Json → List Json → Prop where
  | nil : Rewrites [] []
  | dropped {statement : Json} {statements left : List Json} (h : Revises statement none)
      (hrest : Rewrites statements left) : Rewrites (statement :: statements) left
  | kept {statement revised : Json} {statements left : List Json}
      (h : Revises statement (some revised)) (hrest : Rewrites statements left) :
      Rewrites (statement :: statements) (revised :: left)

theorem rewrites_iff {statements left : List Json}
    (hordered : ∀ statement ∈ statements, statement.Ordered) :
    Rewrites statements left ↔ left = statements.filterMap strip := by
  induction statements generalizing left with
  | nil =>
      constructor
      · rintro ⟨⟩
        rfl
      · rintro rfl
        exact .nil
  | cons statement statements ih =>
      obtain ⟨hstatement, hstatements⟩ := List.forall_mem_cons.1 hordered
      constructor
      · intro h
        cases h with
        | dropped h hrest =>
            rw [List.filterMap_cons_none ((revises_iff hstatement).1 h).symm,
              (ih hstatements).1 hrest]
        | kept h hrest =>
            rw [List.filterMap_cons_some ((revises_iff hstatement).1 h).symm,
              (ih hstatements).1 hrest]
      · rintro rfl
        have hrest := (ih hstatements).2 rfl
        cases hstrip : strip statement with
        | none =>
            rw [List.filterMap_cons_none hstrip]
            exact .dropped ((revises_iff hstatement).2 hstrip.symm) hrest
        | some revised =>
            rw [List.filterMap_cons_some hstrip]
            exact .kept ((revises_iff hstatement).2 hstrip.symm) hrest

/-! ### Statements that stay -/

/-- There is nothing to take from the statement: if it is an Allow statement, it has accounts left
and none of them is everybody. -/
def Settled (statement : Json) : Prop :=
  statement.stringField? "Effect" = some "Allow" → ¬ LosesAccounts statement ∧
    ∀ accounts, principals? "CSP" statement = some (.array accounts) →
      ∀ account ∈ accounts, account.string? ≠ some "*"

theorem strip_eq_self (hordered : statement.Ordered) (h : Settled statement) :
    strip statement = some statement := by
  generalize hstrip : strip statement = revised
  cases hstrip ▸ strips_strip statement with
  | dropped hallow hloses => exact absurd hloses (h hallow).1
  | narrowed hallow haccounts hkeeps =>
      have hall := List.filter_eq_self.2 fun account haccount =>
        decide_eq_true ((h hallow).2 _ haccounts account haccount)
      obtain ⟨principal, hprincipal, hnamed⟩ := Option.bind_eq_some_iff.1 haccounts
      have hrenames : Renames _ statement statement := ⟨principal, principal, hprincipal,
        Json.updates_self (hordered.of_field? hprincipal) hnamed,
        Json.updates_self hordered hprincipal⟩
      rw [filter_not_isEverybody, hall, ← (renames_iff hordered haccounts).1 hrenames]
  | kept => rfl

theorem settled_of_mem_strip {left : Json} (h : left ∈ strip statement) : Settled left := by
  refine fun hallow => ⟨not_losesAccounts_of_mem_strip h hallow, fun accounts haccounts => ?_⟩
  cases h ▸ strips_strip statement with
  | narrowed _ hnamed hkeeps =>
      rw [principals?_withAccounts hnamed, if_pos rfl] at haccounts
      cases haccounts
      rw [filter_not_isEverybody]
      simp
  | kept hother => exact absurd haccounts ((hother hallow).2 accounts)

theorem settled_ignoresNumbers : Json.IgnoresNumbers Settled := by
  intro statement
  unfold Settled
  rw [losesAccounts_ignoresNumbers, Json.stringField?_withoutNumbers,
    Filter.AccessCriteria.principals?_withoutNumbers]
  refine imp_congr_right fun hallow => and_congr_right fun hkeeps => ?_
  cases principals? "CSP" statement with
  | none => simp
  | some accounts =>
      cases accounts with
      | array accounts =>
          rw [Option.map_some, Json.withoutNumbers_array]
          simp [Json.string?_withoutNumbers]
      | _ => simp [Json.withoutNumbers]

/-- What is left stays. -/
theorem filterMap_strip_eq_self {statements : List Json}
    (hordered : ∀ statement ∈ statements, statement.Ordered)
    (h : ∀ statement ∈ statements, Settled statement) :
    statements.filterMap strip = statements := by
  calc statements.filterMap strip
      = statements.filterMap some := List.filterMap_congr fun statement hstatement =>
        strip_eq_self (hordered statement hstatement) (h statement hstatement)
    _ = statements := List.filterMap_some

theorem settled_of_left {statements left : List Json} (h : Left statements left) :
    ∀ statement ∈ left, Settled statement := by
  refine (settled_ignoresNumbers.forall_congr h).2 fun revised hrevised => ?_
  obtain ⟨statement, -, hstrip⟩ := List.mem_filterMap.1 hrevised
  exact settled_of_mem_strip hstrip

/-! ### Documents and texts -/

section

variable {depth : Nat} {fields : StringMap Json} {statements : List Json}
  (hordered : ∀ statement ∈ statements, statement.Ordered)
  (hholds : Json.Holds Json.IsRead depth (.array statements))

include hordered hholds

theorem same_left_iff :
    (Json.array (statements.filterMap strip)).same (.array statements) = true ↔
      statements.filterMap strip = statements := by
  constructor
  · intro hsame
    have hsame := Json.withoutNumbers_eq_of_same hsame
    rw [Json.withoutNumbers_array, Json.withoutNumbers_array] at hsame
    have hleft : Left statements statements := (Json.array.inj hsame).symm
    exact filterMap_strip_eq_self hordered (settled_of_left hleft)
  · intro heq
    rw [heq]
    exact Json.same_self hholds

/-- A document is kept, cleared or narrowed. -/
theorem ofDocument_cases (hstatements : fields.get? "Statement" = some (.array statements)) :
    (statements.filterMap strip = statements ∧ ofDocument (.object fields) = unchanged) ∨
      statements.filterMap strip ≠ statements ∧
        ((statements.filterMap strip = [] ∧ ofDocument (.object fields) = cleared) ∨
          statements.filterMap strip ≠ [] ∧ ofDocument (.object fields) = narrowed (Json.object
            (fields.insert "Statement" (.array (statements.filterMap strip)))).text) := by
  have hsame := same_left_iff hordered hholds
  rw [ofDocument, hstatements]
  dsimp only
  split
  next heq => exact .inl ⟨hsame.1 heq, rfl⟩
  next hchanged =>
    refine .inr ⟨fun heq => hchanged (hsame.2 heq), ?_⟩
    split
    next hempty => exact .inl ⟨List.isEmpty_iff.1 hempty, rfl⟩
    next hleft => exact .inr ⟨fun hempty => hleft (List.isEmpty_iff.2 hempty), rfl⟩

end

theorem ofText_of_read? {text : String} {document : Json} (h : Json.read? text = some document) :
    ofText text = .ok (ofDocument document) := by
  rw [ofText, Filter.policyDocument, h]
  rfl

/-- A text whose statements are what was left of others is kept. -/
theorem ofText_of_left {text : String} {document : Json} {statements : List Json}
    (hread : Json.read? text = some document) (h : Left statements (listed document)) :
    ofText text = .ok unchanged := by
  rw [ofText_of_read? hread]
  rcases listed_cases document with ⟨fields, left, rfl, hleft⟩ | ⟨-, hunchanged⟩
  · rw [listed_of_get? hleft] at h
    have hfield : (Json.object fields).field? "Statement" = some (.array left) := hleft
    have hordered := (Json.readable_of_read? hread).2.of_field? hfield
    obtain ⟨depth, hholds⟩ := (Json.holds_of_read? hread).of_field? hfield
    cases hordered with
    | array hordered =>
    have hstays := filterMap_strip_eq_self hordered (settled_of_left h)
    rcases ofDocument_cases hordered hholds hleft with ⟨-, hkept⟩ | ⟨hchanged, -⟩
    · rw [hkept]
    · exact absurd hstays hchanged
  · rw [hunchanged]

/-- **Stripping a policy text.** Of every text that is a document, it is known what becomes of it.
Without a list of statements it is kept. With one, exactly one list is what becomes of it; the text
is kept just when that is the same list, and cleared just when it is another and empty. Otherwise it
is replaced by the text of the document with this list, which is read back as that document, and is
kept when it is stripped again. -/
theorem strips_text {text : String} {document : Json} (hread : Json.read? text = some document) :
    ∃ stripped, ofText text = .ok stripped ∧
      ((∀ statements, document.field? "Statement" ≠ some (.array statements)) →
        stripped = unchanged) ∧
      ∀ statements, document.field? "Statement" = some (.array statements) → ∃ left,
        (∀ other, Rewrites statements other ↔ other = left) ∧
        (stripped = unchanged ↔ left = statements) ∧
        (stripped = cleared ↔ left ≠ statements ∧ left = []) ∧
        (left ≠ statements → left ≠ [] → ∃ rewritten,
          Json.Updates "Statement" (.array left) document rewritten ∧
          stripped = narrowed rewritten.text ∧
          Json.read? rewritten.text = some rewritten.reread ∧
          ofText rewritten.text = .ok unchanged) := by
  refine ⟨ofDocument document, ofText_of_read? hread, fun hnone => ?_, fun statements hlist => ?_⟩
  · rcases listed_cases document with ⟨fields, statements, rfl, hstatements⟩ | ⟨-, hunchanged⟩
    · exact absurd hstatements (hnone statements)
    · exact hunchanged
  · cases document with
    | object fields =>
        have hreadable := Json.readable_of_read? hread
        obtain ⟨-, -, hsorted, -⟩ := Json.readable_object_iff.1 hreadable
        obtain ⟨depth, hholds⟩ := (Json.holds_of_read? hread).of_field? hlist
        cases hreadable.2.of_field? hlist with
        | array hordered =>
        refine ⟨statements.filterMap strip, fun other => rewrites_iff hordered, ?_⟩
        rcases ofDocument_cases hordered hholds hlist with
          ⟨hsame, heq⟩ | ⟨hchanged, ⟨hempty, heq⟩ | ⟨hleft, heq⟩⟩
        · simp [heq, hsame]
        · rw [hempty] at hchanged ⊢
          simp [heq, hchanged]
        · refine ⟨by simp [heq, hchanged], by simp [heq, hleft], fun _ _ => ?_⟩
          have hreread := Json.read?_text (readable_insert_left hreadable hlist)
          exact ⟨_, (Json.updates_object_iff hsorted).2 rfl, heq, hreread,
            ofText_of_left hreread (left_reread fields statements)⟩
    | _ => cases hlist

/-- Of a policy with four statements the second is narrowed and the last two are dropped; what is
stored is kept from then on. -/
theorem shared_statement_narrowed :
    let account := "urn:csp:iam::acct-1:root"
    let deny := Json.obj [("Effect", .string "Deny"), ("Principal", .obj [("CSP", .strings ["*"])])]
    let allow (accounts : Json) :=
      Json.obj [("Effect", .string "Allow"), ("Principal", .obj [("CSP", accounts)])]
    let policy (statements : List Json) :=
      Json.obj [("Id", .string "p-1"), ("Statement", .array statements)]
    let document := policy
      [deny, allow (.strings ["*", account]), allow (.string "*"), allow (.strings ["*"])]
    let narrowed := policy [deny, allow (.strings [account])]
    Json.read? document.text = some document ∧
      ofText document.text = .ok (.narrowed narrowed.text) ∧
      ofText narrowed.text = .ok unchanged := by
  intro account deny allow policy document after
  have hread : Json.read? document.text = some document :=
    Json.read?_text_of_numberFree (by decide) (by decide +kernel)
  obtain ⟨stripped, hstripped, -, hlist⟩ := strips_text hread
  obtain ⟨left, hleft, -, -, hnarrowed⟩ := hlist _ (Json.field?_obj _ _)
  have hallow (accounts : Json) : (allow accounts).stringField? "Effect" = some "Allow" := by
    simp [Json.stringField?, allow, Json.field?_obj, StringMap.lookup, Json.string?]
  have haccounts (accounts : Json) : principals? "CSP" (allow accounts) = some accounts := by
    simp [principals?, allow, Json.field?_obj, StringMap.lookup]
  have hrewrites : Rewrites
      [deny, allow (.strings ["*", account]), allow (.string "*"), allow (.strings ["*"])]
      [deny, allow (.strings [account])] := by
    refine .kept (.kept fun hallow => ?_) (.kept (.narrowed (hallow _) (haccounts _) ?_ ?_)
      (.dropped (.withdrawn (hallow _) (haccounts _))
        (.dropped (.emptied (hallow _) (haccounts _) ?_) .nil)))
    · exact absurd hallow (by decide)
    · exact ⟨.string account, List.mem_cons_of_mem _ List.mem_cons_self, by decide⟩
    · exact ⟨_, _, Json.field?_obj _ _, Json.updates_obj [] "CSP" _ _,
        Json.updates_obj [("Effect", .string "Allow")] "Principal" _ _⟩
    · intro everybody heverybody
      rw [List.mem_singleton.1 heverybody]
      rfl
  have hupdates := Json.updates_obj [("Id", .string "p-1")] "Statement"
  rw [← (hleft _).1 hrewrites] at hnarrowed
  obtain ⟨rewritten, hrewritten, rfl, -, hkept⟩ := hnarrowed (by simp) (by simp)
  rw [hrewritten.unique (hupdates _ _)] at hstripped hkept
  exact ⟨hread, hstripped, hkept⟩

end Stripped

end CloudPolicy
