import Mathlib.Data.Set.Function
import HostedDelivery.Proofs.Api.Versions
import HostedDelivery.Proofs.Naming

/-!
# Where requests about deployments go

A request is sent as it is or not at all, and a server finds its object by the path, so keys have to be such that the
requests about them can be sent, and lead to different places (`Key.Addressable`). Keys in which there is nothing but
what may stand between two slashes of a path are (`addressable_plain`).
-/

namespace HostedDelivery

theorem Uri.isPathChar_ne {c : Char} (fits : isPathChar c) : c ≠ '?' ∧ c ≠ '#' := by
  constructor
  · rintro rfl
    exact absurd fits (by decide)
  · rintro rfl
    exact absurd fits (by decide)

/-- A path is sent as it is, whether or not an empty query comes after it. -/
theorem Uri.ofTarget_path {path query : String} (fits : ∀ c ∈ path.toList, isPathChar c)
    (short : path.utf8ByteSize < maxLength) (bare : query = "" ∨ query = "?") :
    ofTarget (path ++ query) = .ok (path ++ query) := by
  have size : ¬maxLength < (path ++ query).utf8ByteSize := by
    rw [String.utf8ByteSize_append]
    rcases bare with rfl | rfl
    · simp; omega
    · have one : "?".utf8ByteSize = 1 := by decide
      omega
  have front : (path ++ query).toList.takeWhile (fun c => c ≠ '?') = path.toList := by
    rw [String.toList_append, List.takeWhile_append_of_pos fun c member => by
      simpa using (isPathChar_ne (fits c member)).1]
    rcases bare with rfl | rfl <;> simp
  have back : ((path ++ query).toList.dropWhile (fun c => c ≠ '?')).drop 1 = [] := by
    rw [String.toList_append, List.dropWhile_append_of_pos fun c member => by
      simpa using (isPathChar_ne (fits c member)).1]
    rcases bare with rfl | rfl <;> simp
  have whole : (path ++ query).toList.takeWhile (fun c => c ≠ '#') = (path ++ query).toList := by
    refine List.takeWhile_eq_self_iff.mpr fun c member => ?_
    rw [String.toList_append] at member
    rcases List.mem_append.mp member with inPath | inQuery
    · simpa using (isPathChar_ne (fits c inPath)).2
    · rcases bare with rfl | rfl
      · cases inQuery
      · simp at inQuery
        simp [inQuery]
  simp only [ofTarget, whole, front, back, if_neg size, List.all_eq_true.mpr fits, List.all_nil, Bool.and_self, if_true,
    String.ofList_toList]

namespace Key

/-- Keys about which requests can be sent, each to a path of its own. -/
structure Addressable (keys : Set Key) : Prop where
  looks {key : Key} (isKey : key ∈ keys) : ∃ uri, (Edit.look key).uri = .ok uri
  writes {key : Key} (isKey : key ∈ keys) (body : Option Json) :
    ∃ uri, (⟨.patch, Exchange.address .deployments key, body⟩ : Request).uri = .ok uri
  apart : keys.InjOn fun key => (Edit.look key).path

/-- Namespace and name are steps of a path. -/
structure Plain (key : Key) : Prop where
  named : key.name ≠ ""
  fits : ∀ c ∈ key.namespace_.toList ++ key.name.toList, Uri.isPathChar c ∧ c ≠ '/'
  short : (Exchange.address .deployments key).path.utf8ByteSize < Uri.maxLength

-- The characters are gone through one by one, not all characters that there are.
instance (key : Key) : Decidable key.Plain :=
  decidable_of_iff
    (key.name ≠ "" ∧ ((key.namespace_.toList ++ key.name.toList).all fun c => Uri.isPathChar c && c != '/') = true ∧
      (Exchange.address .deployments key).path.utf8ByteSize < Uri.maxLength)
    ⟨fun ⟨named, fits, short⟩ => ⟨named, fun c member => by simpa using List.all_eq_true.mp fits c member, short⟩,
      fun plain => ⟨plain.named, List.all_eq_true.mpr fun c member => by simpa using plain.fits c member, plain.short⟩⟩

variable {key : Key}

theorem toList_path (key : Key) : (Exchange.address .deployments key).path.toList =
    (Resource.deployments.root ++ "/namespaces/").toList ++
      (key.namespace_.toList ++ '/' :: (Resource.deployments.plural.toList ++ '/' :: key.name.toList)) := by
  simp [Address.path, Exchange.address]

theorem Plain.isPathChar (plain : key.Plain) :
    ∀ c ∈ (Exchange.address .deployments key).path.toList, Uri.isPathChar c := by
  have root : ∀ c ∈ (Resource.deployments.root ++ "/namespaces/").toList, Uri.isPathChar c :=
    List.all_eq_true.mp (by decide)
  have plural : ∀ c ∈ Resource.deployments.plural.toList, Uri.isPathChar c := List.all_eq_true.mp (by decide)
  have slash : Uri.isPathChar '/' := by decide
  intro c member
  simp only [toList_path, List.mem_append, List.mem_cons] at member
  obtain inRoot | inNamespace | rfl | inPlural | rfl | inName := member
  · exact root c inRoot
  · exact (plain.fits c (List.mem_append_left _ inNamespace)).1
  · exact slash
  · exact plural c inPlural
  · exact slash
  · exact (plain.fits c (List.mem_append_right _ inName)).1

theorem Plain.path_look (plain : key.Plain) : (Edit.look key).path = (Exchange.address .deployments key).path := by
  have whole : (Exchange.address .deployments key).path.toList.takeWhile (fun c => c ≠ '?' ∧ c ≠ '#') =
      (Exchange.address .deployments key).path.toList :=
    List.takeWhile_eq_self_iff.mpr fun c member => by simpa using Uri.isPathChar_ne (plain.isPathChar c member)
  rw [Request.path_eq]
  exact (congrArg String.ofList whole).trans String.ofList_toList

theorem Plain.uri (plain : key.Plain) {q : Request} (about : q.address = Exchange.address .deployments key)
    (bare : q.query = "" ∨ q.query = "?") : ∃ uri, q.uri = .ok uri := by
  have named : q.address.name ≠ some "" := by
    rw [about]
    exact fun same => plain.named (Option.some.inj same)
  rw [Request.uri, if_neg named, Request.target, about]
  exact ⟨_, Uri.ofTarget_path plain.isPathChar plain.short bare⟩

theorem addressable_plain : Addressable {key | key.Plain} where
  looks plain := plain.uri rfl (.inl rfl)
  writes plain _ := plain.uri rfl (.inr rfl)
  apart key plain key' plain' same := by
    have paths : (Exchange.address .deployments key).path = (Exchange.address .deployments key').path := by
      rw [← plain.path_look, ← plain'.path_look]
      exact same
    have steps := congrArg String.toList paths
    rw [toList_path, toList_path, List.append_cancel_left_eq] at steps
    have unslashed {key : Key} (plain : key.Plain) : '/' ∉ key.namespace_.toList := fun member =>
      (plain.fits '/' (List.mem_append_left _ member)).2 rfl
    obtain ⟨home, rest⟩ := eq_of_slash (unslashed plain) (unslashed plain') steps
    have name := (List.cons.inj (List.append_cancel_left rest)).2
    obtain ⟨ns, n⟩ := key
    obtain ⟨ns', n'⟩ := key'
    rw [Key.mk.injEq]
    exact ⟨String.toList_inj.mp home, String.toList_inj.mp name⟩

end Key
end HostedDelivery
