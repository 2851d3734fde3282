import HostedDelivery.Proofs.Exchange
import HostedDelivery.Proofs.Ownership

/-!
# Passes that look for a bundle twice

A pass that has not found the bundle of its deployment builds one, looks for it again and only then creates it. From its
past alone it follows that such a pass is nearly at its end after the second look-up (`Pass.Past.Short`), and what it
ends in when the hub denies nothing but what is absent, or there already (`Pass.Past.Plain`): it ends without an error
and has written no bundle, or with the hub's refusal to create one, unless it has created one itself
(`Pass.Past.Concludes`).
-/

namespace HostedDelivery
open Pass

/-- Whether a call looks for a bundle. -/
def HubCall.looksForWork : HubCall → Bool
  | .getWork _ => true
  | _ => false

/-- The key of the bundle that was created. -/
def Program.Exchange.creation? : Program.Exchange Ask Ask.Answer → Option Key
  | ⟨.hub (.createWork w), .ok _⟩ => some w.metadata.key
  | _ => none

namespace Pass.Past

/-- What the pass was answered when it looked for bundles. -/
def lookUps (past : Past) : List (Except HubError Work) :=
  past.filterMap fun x => match x with
    | ⟨.hub (.getWork _), answer⟩ => some answer
    | _ => none

/-- The first time that the pass looked for a bundle it found none, and it has looked again since. -/
def LooksAgain (past : Past) : Prop := ∃ e second more, past.lookUps = .error e :: second :: more ∧ e.isNotFound

/-- The pass has created a bundle. -/
def Created (past : Past) : Prop := ∃ x ∈ past, x.creation?.isSome

instance (past : Past) : Decidable past.Created := inferInstanceAs (Decidable (∃ x ∈ past, x.creation?.isSome))

/-- Look-ups fail only where there is no bundle, and a bundle that has a key is not created only where there is one. -/
structure Plain (past : Past) : Prop where
  lookUps : ∀ k e, ⟨.hub (.getWork k), .error e⟩ ∈ past → e.isNotFound
  creations : ∀ w e, ⟨.hub (.createWork w), .error e⟩ ∈ past → w.key?.isSome → ∃ message, e = .alreadyExists message

/-- At most two requests were made since the second look-up, if there was one. -/
def Short (past : Past) : Prop := ∃ first last, past = first ++ last ∧ first.lookUps.length ≤ 1 ∧ last.length ≤ 2

/-- What the pass ends in when it has looked again. -/
def Concludes (past : Past) (outcome : Except PassError Action) : Prop :=
  past.Created ∨ (outcome = .ok .awaitChange ∧ past.Calls fun c => c.changesWorks = false) ∨
    ∃ action message, outcome = .error (.store action (.alreadyExists message))

/-- The pass has looked for a bundle once at most, or it ends in one of these ways. -/
def MayEnd (past : Past) (outcome : Except PassError Action) : Prop :=
  past.lookUps.length ≤ 1 ∨ (past.Plain → past.Concludes outcome)

/-- The pass has looked for a bundle once at most, and has done nothing to any. -/
structure Early (past : Past) : Prop where
  few : past.lookUps.length ≤ 1
  idle : past.Calls fun c => c.changesWorks = false

theorem lookUps_append (past more : Past) : lookUps (past ++ more) = past.lookUps ++ more.lookUps :=
  List.filterMap_append

@[simp] theorem lookUps_concat (past : Past) (k : Key) (answer : (HubCall.getWork k).Answer) :
    lookUps (past ++ [⟨.hub (.getWork k), answer⟩]) = past.lookUps ++ [answer] := by
  rw [lookUps_append]
  rfl

theorem lookUps_of_calls {could : HubCall → Prop} (quiet : ∀ c, could c → c.looksForWork = false) {past : Past}
    (calls : past.Calls could) : past.lookUps = [] := by
  rw [lookUps, List.filterMap_eq_nil_iff]
  rintro ⟨ask, answer⟩ member
  split
  · rename_i k _ same
    obtain rfl := (Sigma.mk.inj same).1
    cases quiet _ (calls _ member _ rfl)
  · rfl

theorem Calls.append {could : HubCall → Prop} {past more : Past} (calls : past.Calls could)
    (rest : more.Calls could) : Calls could (past ++ more) :=
  fun x member => (List.mem_append.mp member).elim (calls x) (rest x)

theorem Calls.mono {could wider : HubCall → Prop} {past : Past} (calls : past.Calls could)
    (all : ∀ c, could c → wider c) : past.Calls wider :=
  fun x member c isCall => all c (calls x member c isCall)

theorem calls_log (could : HubCall → Prop) (entry : Log.Entry) : Calls could [⟨.log entry, ()⟩] := by
  intro x member c isCall
  rw [List.mem_singleton.mp member] at isCall
  cases isCall

theorem Calls.lookUp {past : Past} (idle : past.Calls fun c => c.changesWorks = false) (k : Key)
    (answer : (HubCall.getWork k).Answer) :
    Calls (fun c => c.changesWorks = false) (past ++ [⟨.hub (.getWork k), answer⟩]) := by
  refine idle.append fun x member c isCall => ?_
  rw [List.mem_singleton.mp member] at isCall
  cases isCall
  rfl

theorem Plain.append {past more : Past} (plain : past.Plain) (rest : more.Plain) : Plain (past ++ more) where
  lookUps k e member := (List.mem_append.mp member).elim (plain.lookUps k e) (rest.lookUps k e)
  creations w e member := (List.mem_append.mp member).elim (plain.creations w e) (rest.creations w e)

theorem plain_nil : Plain [] where
  lookUps _ _ member := absurd member List.not_mem_nil
  creations _ _ member := absurd member List.not_mem_nil

theorem short_of_few {past : Past} (few : past.lookUps.length ≤ 1) : past.Short :=
  ⟨past, [], (List.append_nil past).symm, few, Nat.zero_le 2⟩

theorem LooksAgain.append {past : Past} (again : past.LooksAgain) (more : Past) : LooksAgain (past ++ more) := by
  obtain ⟨e, second, rest, lookUps, isNotFound⟩ := again
  exact ⟨e, second, rest ++ more.lookUps, by rw [lookUps_append, lookUps]; rfl, isNotFound⟩

theorem LooksAgain.not_few {past : Past} (again : past.LooksAgain) : ¬past.lookUps.length ≤ 1 := by
  obtain ⟨e, second, rest, lookUps, -⟩ := again
  simp [lookUps]

/-- From the second look-up on, the pass makes no more than two requests. -/
theorem Short.few {past more : Past} (short : Short (past ++ more)) (again : past.LooksAgain) : more.length < 2 := by
  obtain ⟨first, last, same, few, brief⟩ := short
  by_contra long
  -- Otherwise all of `past`, both look-ups included, comes before the last two requests.
  have lengths := congrArg List.length same
  simp only [List.length_append] at lengths
  have within : past <+: first :=
    List.prefix_of_prefix_length_le (List.prefix_append past more) (same ▸ List.prefix_append first last) (by omega)
  obtain ⟨between, rfl⟩ := within
  exact (again.append between).not_few few

theorem Early.append {could : HubCall → Prop} {past more : Past} (early : past.Early) (calls : more.Calls could)
    (quiet : ∀ c, could c → c.looksForWork = false ∧ c.changesWorks = false) : Early (past ++ more) where
  few := by
    rw [lookUps_append, lookUps_of_calls (fun c isCall => (quiet c isCall).1) calls, List.append_nil]
    exact early.few
  idle := early.idle.append (calls.mono fun c isCall => (quiet c isCall).2)

end Pass.Past

/-- A hub that answers every call tells only what is absent, or there already. -/
theorem Hub.Reliable.plain {hub : Hub} (reliable : hub.Reliable) (ask : Ask) :
    Past.Plain [⟨ask, (Pass.step ask hub).1⟩] where
  lookUps k e member := by
    obtain ⟨rfl, answer⟩ := Sigma.mk.inj (List.mem_singleton.mp member)
    have denied : .error e = (hub.perform (.getWork k)).1 := eq_of_heq answer
    rw [(reliable.absent denied.symm).2]
    rfl
  creations w e member keyed := by
    obtain ⟨rfl, answer⟩ := Sigma.mk.inj (List.mem_singleton.mp member)
    have denied : .error e = (hub.perform (.createWork w)).1 := eq_of_heq answer
    have granted : hub.refusal? (.createWork w) = none := reliable.refusal?_eq_none keyed
    rw [perform_granted granted, apply, createWork, works_noted] at denied
    cases stored : hub.works w.metadata.key with
    | none =>
      rw [stored] at denied
      cases denied
    | some v =>
      rw [stored] at denied
      exact ⟨_, Except.error.inj denied⟩

section
variable {α : Type} {s : Scaffolder} {d : Deployment} {k : Key} {w : Work} {past : Past}

/-! ### Parts of a pass that do not look for the bundle -/

theorem obeys_few {p : Pass α} (uses : Uses (fun c => c.looksForWork = false) p) (few : past.lookUps.length ≤ 1) :
    Obeys (fun past _ => past.Short) (fun past _ => past.lookUps.length ≤ 1) (fun past e => past.MayEnd (.error e)) p
      past := by
  have still (more : Past) (calls : more.Calls fun c => c.looksForWork = false) :
      (past ++ more : Past).lookUps.length ≤ 1 := by
    rw [Past.lookUps_append, Past.lookUps_of_calls (fun _ => id) calls, List.append_nil]
    exact few
  refine uses.obeys (fun _ more _ calls => ?_) (fun _ more calls => still more calls) fun _ more calls => ?_
  · exact Past.short_of_few (still more calls)
  · exact .inl (still more calls)

theorem obeys_early {p : Pass α} (uses : Uses (fun c => c.looksForWork = false ∧ c.changesWorks = false) p)
    (early : past.Early) :
    Obeys (fun past _ => past.Short) (fun past _ => past.Early) (fun past e => past.MayEnd (.error e)) p past := by
  refine uses.obeys (fun _ more _ calls => ?_) (fun _ more calls => ?_) fun _ more calls => ?_
  · exact Past.short_of_few (early.append calls fun _ => id).few
  · exact early.append calls fun _ => id
  · exact .inl (early.append calls fun _ => id).few

/-! ### Looking for the bundle -/

theorem early_findWork (k : Key) (none : past.lookUps = []) (idle : past.Calls fun c => c.changesWorks = false) :
    Obeys (fun past _ => past.Short) (fun past _ => past.Early) (fun past e => past.MayEnd (.error e)) (findWork k)
      past := by
  have early (answer : (HubCall.getWork k).Answer) : Past.Early (past ++ [⟨.hub (.getWork k), answer⟩]) :=
    ⟨by simp [none], idle.lookUp k answer⟩
  refine obeys_call (Past.short_of_few (by simp [none])) fun answer => ?_
  cases answer with
  | ok w => exact obeys_pure (early _)
  | error e =>
    dsimp only
    split
    · exact obeys_pure (early _)
    · exact obeys_early (uses_fail ..) (early _)

/-- What is left to be done after a bundle was stored or left as it was. -/
theorem late_createOrUpdate (keyed : w.key?.isSome) (early : past.Early) :
    Obeys (fun past _ => past.Short)
      (fun after _ => ∃ last, after = past ++ last ∧ last.length ≤ 2 ∧
        (after.Created ∨ after.Calls fun c => c.changesWorks = false))
      (fun past e => past.MayEnd (.error e)) (({ scaffolder := s } : Delivery).createOrUpdate w) past := by
  refine obeys_call (Past.short_of_few early.few) fun answer => ?_
  cases answer with
  | ok existing =>
    dsimp only
    -- Keeping the existing bundle changes nothing, so it is not written back.
    rw [if_pos (show Work.Same existing existing from rfl)]
    exact obeys_pure ⟨_, rfl, by simp, .inr (early.idle.lookUp _ _)⟩
  | error e =>
    dsimp only
    split
    · refine obeys_bind (obeys_callOr ⟨past, [_], rfl, early.few, by simp⟩ (fun v => ?_) fun e' => ?_)
      · exact obeys_pure ⟨_, List.append_assoc .., by simp, .inl ⟨_, List.mem_concat_self, rfl⟩⟩
      · refine .inr fun plain => ?_
        obtain ⟨message, rfl⟩ := plain.creations w e' (by simp) keyed
        exact .inr (.inr ⟨_, message, rfl⟩)
    · rename_i present
      refine obeys_throw (.inr fun plain => ?_)
      exact absurd (plain.lookUps _ e List.mem_concat_self) present

/-! ### Whole passes -/

theorem ends_late_log {first last : Past} {level : Log.Level} {message : String} (early : first.Early)
    (brief : last.length ≤ 2)
    (done : Past.Created (first ++ last) ∨ Past.Calls (fun c => c.changesWorks = false) (first ++ last)) :
    Obeys (fun past _ => past.Short) (fun past _ => past.MayEnd (.ok .awaitChange))
      (fun past e => past.MayEnd (.error e)) (log level message) (first ++ last) := by
  refine obeys_note ⟨first, last, rfl, early.few, brief⟩ (.inr fun _ => ?_)
  rcases done with ⟨x, member, creates⟩ | idle
  · exact .inl ⟨x, List.mem_append_left _ member, creates⟩
  · exact .inr (.inl ⟨rfl, idle.append (Past.calls_log _ _)⟩)

theorem concludes_build (at_ : d.workKey = .ok k) (early : past.Early) :
    Obeys (fun past _ => past.Short) (fun past _ => past.MayEnd (.ok .awaitChange))
      (fun past e => past.MayEnd (.error e)) (({ scaffolder := s } : Delivery).build d k) past := by
  refine obeys_bind ((obeys_early ((d.uses_projectSecrets s).mono ?_) early).imp fun past secrets early => ?_)
  · rintro _ ⟨key, rfl⟩
    exact ⟨rfl, rfl⟩
  refine obeys_bind (obeys_ofExcept (fun w scaffolds => ?_) fun _ _ => .inl early.few)
  refine obeys_bind ((obeys_early (d.uses_ensureFinalizer.mono ?_) early).imp fun past _ early => ?_)
  · rintro _ rfl
    exact ⟨rfl, rfl⟩
  obtain ⟨ns, name, -⟩ := Deployment.key?_scaffoldWork at_ scaffolds
  refine obeys_bind ((late_createOrUpdate (by simp [Work.key?, ns, name]) early).imp ?_)
  rintro _ ⟨stored, outcome⟩ ⟨last, rfl, brief, done⟩
  cases outcome <;> exact ends_late_log early brief done

theorem concludes_deliver (none : past.lookUps = []) (idle : past.Calls fun c => c.changesWorks = false) :
    Obeys (fun past _ => past.Short) (fun past _ => past.MayEnd (.ok .awaitChange))
      (fun past e => past.MayEnd (.error e)) (({ scaffolder := s } : Delivery).deliver d) past := by
  rw [Delivery.deliver]
  split
  · exact (obeys_few (uses_fail ..) (by simp [none])).imp fun _ _ few => .inl few
  · rename_i k at_
    refine obeys_bind ((early_findWork k none idle).imp fun past found early => ?_)
    cases found with
    | none => exact obeys_bind ((obeys_early (uses_log ..) early).imp fun _ _ early => concludes_build at_ early)
    | some existing =>
      refine (obeys_few (uses_bind (uses_log ..) fun _ => ?_) early.few).imp fun _ _ few => .inl few
      refine uses_bind (d.uses_ensureFinalizer.mono ?_) fun _ => ?_
      · rintro _ rfl
        rfl
      refine uses_bind ((d.uses_carriedOver _).mono fun _ never => never.elim) fun desired => ?_
      refine (d.uses_patchStatus desired).mono ?_
      rintro _ ⟨delta, rfl⟩
      rfl

theorem few_removeWork (none : past.lookUps = []) (idle : past.Calls fun c => c.changesWorks = false) :
    Obeys (fun past _ => past.Short) (fun past _ => past.lookUps.length ≤ 1) (fun past e => past.MayEnd (.error e))
      d.removeWork past := by
  refine obeys_bind (obeys_ofExcept (fun k at_ => ?_) fun _ _ => .inl (by simp [none]))
  refine obeys_bind ((early_findWork k none idle).imp fun past found early => ?_)
  cases found with
  | none => exact obeys_few (uses_bind (uses_log ..) fun _ => uses_pure _) early.few
  | some work =>
    refine obeys_few (uses_bind ((work.uses_requestRemoval k _).mono ?_) fun _ => ?_) early.few
    · rintro _ rfl
      rfl
    refine uses_bind ((d.uses_carriedOver _).mono fun _ never => never.elim) fun desired => ?_
    refine uses_bind ((d.uses_patchStatus desired).mono ?_) fun _ => uses_bind (uses_log ..) fun _ => uses_pure _
    rintro _ ⟨delta, rfl⟩
    rfl

theorem concludes_cleanUp (none : past.lookUps = []) (idle : past.Calls fun c => c.changesWorks = false) :
    Obeys (fun past _ => past.Short) (fun past action => past.MayEnd (.ok action))
      (fun past e => past.MayEnd (.error e)) d.cleanUp past := by
  rw [Deployment.cleanUp]
  split
  · refine (obeys_few (uses_bind (uses_log ..) fun _ => uses_pure _) ?_).imp fun _ _ few => .inl few
    simp [none]
  · refine obeys_log (Past.short_of_few (by simp [none])) (obeys_bind ((few_removeWork ?_ ?_).imp ?_))
    · rw [Past.lookUps_append, none]
      rfl
    · exact idle.append (Past.calls_log _ _)
    intro past removal few
    cases removal with
    | inProgress => exact obeys_pure (.inl few)
    | removed =>
      refine (obeys_few (uses_bind (d.uses_removeFinalizer.mono ?_) fun _ => ?_) few).imp fun _ _ few => .inl few
      · rintro _ rfl
        rfl
      · exact uses_bind (uses_log ..) fun _ => uses_pure _

/-- Whatever a pass is answered, it makes at most two requests after it has looked for a bundle again, and it ends as
it may end. -/
theorem concludes_reconcile (s : Scaffolder) (d : Deployment) :
    Obeys (fun past _ => past.Short) (fun past action => past.MayEnd (.ok action))
      (fun past e => past.MayEnd (.error e)) (({ scaffolder := s } : Delivery).reconcile d) [] := by
  have idle : Past.Calls (fun c => c.changesWorks = false) [] := by
    intro x member
    cases member
  rw [Delivery.reconcile]
  split
  · exact concludes_cleanUp rfl idle
  · refine obeys_log (Past.short_of_few (Nat.zero_le 1)) (obeys_bind ((concludes_deliver rfl ?_).imp ?_))
    · exact idle.append (Past.calls_log _ _)
    · exact fun _ _ ends => obeys_pure ends

end
end HostedDelivery
