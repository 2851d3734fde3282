import HostedDelivery.Proofs.Custody

/-!
# Bundles that lead back

A change to a bundle reaches the deployment that is read from its annotation. That annotation is a namespace and a name
with a slash between them, and is read up to its first slash. So it gives back a namespace and a name iff both are there
and the namespace has no slash of its own (`parseOwnerReference?_eq_some_iff`); of a name it may have any number.
-/

namespace HostedDelivery

theorem splitAtSlash_eq_some_iff {text before after : List Char} :
    splitAtSlash text = some (before, after) ↔ '/' ∉ before ∧ text = before ++ '/' :: after := by
  induction text generalizing before after with
  | nil => simp [splitAtSlash]
  | cons c rest ih =>
    rw [splitAtSlash]
    split
    case isTrue slash =>
      subst slash
      cases before with
      | nil => simp
      | cons b before =>
        -- A first part that begins here would begin with the slash.
        simp only [Option.some.injEq, Prod.mk.injEq, List.nil_eq, reduceCtorEq, false_and, List.mem_cons, not_or,
          List.cons_append, List.cons.injEq, false_iff, not_and]
        exact fun apart slash => absurd slash apart.1
    case isFalse other =>
      cases before with
      | nil => simp [other]
      | cons b before =>
        simp only [Option.map_eq_some_iff, Prod.exists, ih, Prod.mk.injEq, List.cons.injEq, List.mem_cons, not_or,
          List.cons_append]
        constructor
        · rintro ⟨before, after, ⟨apart, rfl⟩, ⟨rfl, rfl⟩, rfl⟩
          exact ⟨⟨Ne.symm other, apart⟩, rfl, rfl⟩
        · rintro ⟨⟨-, apart⟩, rfl, rfl⟩
          exact ⟨before, after, ⟨apart, rfl⟩, ⟨rfl, rfl⟩, rfl⟩

/-- What stands before the first slash, and what stands after it, are settled by the whole. -/
theorem eq_of_slash {before before' after after' : List Char} (unslashed : '/' ∉ before) (unslashed' : '/' ∉ before')
    (same : before ++ '/' :: after = before' ++ '/' :: after') : before = before' ∧ after = after' := by
  have first : splitAtSlash (before ++ '/' :: after) = some (before, after) :=
    splitAtSlash_eq_some_iff.mpr ⟨unslashed, rfl⟩
  have second : splitAtSlash (before ++ '/' :: after) = some (before', after') :=
    splitAtSlash_eq_some_iff.mpr ⟨unslashed', same⟩
  exact Prod.mk.inj (Option.some.inj (first.symm.trans second))

/-- A key of which the text tells the namespace from the name. -/
structure Key.Legible (k : Key) : Prop where
  placed : k.namespace_ ≠ ""
  unslashed : '/' ∉ k.namespace_.toList
  named : k.name ≠ ""

instance (k : Key) : Decidable k.Legible :=
  decidable_of_iff (k.namespace_ ≠ "" ∧ '/' ∉ k.namespace_.toList ∧ k.name ≠ "")
    ⟨fun ⟨placed, unslashed, named⟩ => ⟨placed, unslashed, named⟩,
      fun legible => ⟨legible.placed, legible.unslashed, legible.named⟩⟩

theorem Key.toList_text (k : Key) : k.text.toList = k.namespace_.toList ++ '/' :: k.name.toList := by
  simp [Key.text]

theorem parseOwnerReference?_eq_some_iff {value : String} {k : Key} :
    parseOwnerReference? value = some k ↔ k.Legible ∧ value = k.text := by
  rw [parseOwnerReference?, Option.bind_eq_bind, Option.bind_eq_some_iff]
  constructor
  · rintro ⟨⟨before, after⟩, divided, given⟩
    obtain ⟨apart, spelled⟩ := splitAtSlash_eq_some_iff.mp divided
    dsimp only at given
    split at given
    case isTrue => cases given
    case isFalse filled =>
      obtain ⟨placed, named⟩ := not_or.mp filled
      obtain rfl := Option.some.inj given
      refine ⟨⟨?_, ?_, ?_⟩, String.toList_inj.mp ?_⟩
      · simpa [← String.toList_inj] using placed
      · simpa using apart
      · simpa [← String.toList_inj] using named
      · simpa [Key.toList_text] using spelled
  · rintro ⟨legible, rfl⟩
    refine ⟨(k.namespace_.toList, k.name.toList),
      splitAtSlash_eq_some_iff.mpr ⟨legible.unslashed, k.toList_text⟩, ?_⟩
    have filled : ¬(k.namespace_.toList = [] ∨ k.name.toList = []) := by
      simp [legible.placed, legible.named]
    simp only [if_neg filled, String.ofList_toList]

/-- With an infrastructure identifier there is a bundle, and it says what deployment it is for. -/
theorem Deployment.owner?_scaffoldWork {d : Deployment} (identified : d.spec.infraId ≠ "") :
    ∃ w, d.scaffoldWork = .ok w ∧ w.owner? = parseOwnerReference? d.ownerReference := by
  rw [scaffoldWork, workKey, if_neg identified]
  exact ⟨_, rfl, by simp [Work.owner?, Dict.find?]⟩

/-- The bundle for a deployment leads back to it iff its text tells its namespace from its name, and what is read from a
text is the one legible key with that text, if there is any. -/
theorem created_leads_back :
    (∀ d : Deployment, d.spec.infraId ≠ "" → ∃ w, d.scaffoldWork = .ok w ∧
      (w.owner? = some ⟨d.namespace_, d.name⟩ ↔ Key.Legible ⟨d.namespace_, d.name⟩)) ∧
    ∀ (value : String) (k : Key), parseOwnerReference? value = some k ↔ k.Legible ∧ value = k.text := by
  refine ⟨fun d identified => ?_, fun value k => parseOwnerReference?_eq_some_iff⟩
  obtain ⟨w, created, owner⟩ := Deployment.owner?_scaffoldWork identified
  refine ⟨w, created, ?_⟩
  rw [owner, parseOwnerReference?_eq_some_iff]
  exact and_iff_left rfl

/-- A slash in the name does no harm. With one in the namespace, the bundle leads to a deployment elsewhere. -/
theorem created_leads_back_slashed :
    (∃ w, (Deployment.sample "team" "a/hd" "x1" none).scaffoldWork = .ok w ∧ w.owner? = some ⟨"team", "a/hd"⟩) ∧
    (∃ w, (Deployment.sample "team/a" "hd" "x1" none).scaffoldWork = .ok w ∧ w.owner? ≠ some ⟨"team/a", "hd"⟩) ∧
    parseOwnerReference? "team/a/hd" = some ⟨"team", "a/hd"⟩ := by
  obtain ⟨w, created, leads⟩ := created_leads_back.1 (.sample "team" "a/hd" "x1" none) (by decide)
  obtain ⟨w', created', leads'⟩ := created_leads_back.1 (.sample "team/a" "hd" "x1" none) (by decide)
  refine ⟨⟨w, created, leads.mpr (by decide)⟩, ⟨w', created', ?_⟩, ?_⟩
  · exact fun same => absurd (leads'.mp same) (by decide)
  · exact (created_leads_back.2 "team/a/hd" ⟨"team", "a/hd"⟩).mpr ⟨by decide, by decide⟩

end HostedDelivery
