import Harvest.Store.Call

/-! What the calls of a store do to its collections: each changes one collection and leaves the others
alone. -/

namespace Harvest.Store

/-- A lookup of a name goes past entries of other names. -/
theorem lookup_cons_of_ne {name other : String} (different : name ≠ other) (documents : List Fields)
    (rest : List (String × List Fields)) :
    ((other, documents) :: rest).lookup name = rest.lookup name := by
  have unequal : (name == other) = false := beq_false_of_ne different
  -- The comparison of the two names decides the lookup.
  simp [List.lookup_cons, unequal]

/-- Looking up an entry that was just replaced gives what was put there. -/
theorem lookup_setEntry_self (name : String) (documents : List Fields)
    (entries : List (String × List Fields)) :
    (setEntry name documents entries).lookup name = some documents := by
  -- Replacing walks to the first entry of the name, which is the one that a lookup finds.
  induction entries with
  | nil => simp [setEntry]
  | cons entry rest ih =>
    obtain ⟨other, old⟩ := entry
    by_cases same : other = name
    · simp [setEntry, same]
    · rw [setEntry, if_neg same, lookup_cons_of_ne (Ne.symm same), ih]

/-- Replacing an entry leaves the entries of other names as they are. -/
theorem lookup_setEntry_of_ne {name other : String} (different : other ≠ name)
    (documents : List Fields) (entries : List (String × List Fields)) :
    (setEntry name documents entries).lookup other = entries.lookup other := by
  -- The walk for one name never touches an entry of another.
  induction entries with
  | nil => rw [setEntry, lookup_cons_of_ne different]
  | cons entry rest ih =>
    obtain ⟨first, old⟩ := entry
    by_cases same : first = name
    · subst same
      rw [setEntry, if_pos rfl, lookup_cons_of_ne different, lookup_cons_of_ne different]
    · -- An entry of yet another name is met, or passed over, on both sides alike.
      rw [setEntry, if_neg same, List.lookup_cons, List.lookup_cons, ih]

/-- A replaced collection holds the new documents. -/
@[simp] theorem documents_withDocuments (store : Store) (collection : String)
    (documents : List Fields) :
    (store.withDocuments collection documents).documents collection = documents := by
  -- The documents are looked up where they have just been put.
  simp [Store.documents, withDocuments, lookup_setEntry_self]

/-- Replacing one collection leaves the others as they are. -/
theorem documents_withDocuments_of_ne {collection other : String} (different : other ≠ collection)
    (store : Store) (documents : List Fields) :
    (store.withDocuments collection documents).documents other = store.documents other := by
  -- A collection that was never written is empty, before and afterwards.
  simp [Store.documents, withDocuments, lookup_setEntry_of_ne different]

/-- Objects are accepted as documents one by one. -/
theorem asDocuments_objects (documents : List Fields) :
    asDocuments (documents.map .object) = .ok documents := by
  -- No document is refused, so that the first one does not stop the others.
  induction documents with
  | nil => rfl
  | cons document rest ih =>
    simp [asDocuments, asDocument, ih, Bind.bind, Except.bind, Pure.pure, Except.pure]

/-- Inserting objects succeeds, appends them to their collection, and leaves the others alone. -/
theorem insertMany_objects (store : Store) (collection : String) (added : List Fields) :
    ∃ after, store.insertMany collection (added.map .object) = .ok after ∧
      after.documents collection = store.documents collection ++ added ∧
      ∀ other, other ≠ collection → after.documents other = store.documents other := by
  -- Nothing to insert leaves the store itself; otherwise one collection is replaced.
  cases added with
  | nil => exact ⟨store, by simp [insertMany], by simp, fun _ _ => rfl⟩
  | cons document rest =>
    refine ⟨store.withDocuments collection (store.documents collection ++ document :: rest), ?_,
      documents_withDocuments .., fun other different => documents_withDocuments_of_ne different ..⟩
    -- The documents are checked before any of them is inserted.
    have accepted := asDocuments_objects (document :: rest)
    simp only [List.map_cons] at accepted
    simp [insertMany, accepted, Bind.bind, Except.bind, Pure.pure, Except.pure]

/-- An update rewrites the chosen documents of its collection in place. -/
theorem documents_updateMany (store : Store) (collection : String) (filter : Filter) (set : Fields) :
    (store.updateMany collection filter set).1.documents collection =
      (store.documents collection).map fun document =>
        if chosen filter document then document.extend set else document := by
  -- The number of chosen documents is told besides, and does not matter here.
  simp [updateMany]

/-- An update leaves all other collections alone. -/
theorem documents_updateMany_of_ne {collection other : String} (different : other ≠ collection)
    (store : Store) (filter : Filter) (set : Fields) :
    (store.updateMany collection filter set).1.documents other = store.documents other := by
  -- Only the collection of the update is put anew.
  simp [updateMany, documents_withDocuments_of_ne different]

/-- Upserting an object succeeds and changes its own collection only. -/
theorem upsertOne_object (store : Store) (collection : String) (filter : Filter) (fields : Fields) :
    ∃ after, store.upsertOne collection filter (.object fields) = .ok after ∧
      after.documents collection = upsertInto filter fields (store.documents collection) ∧
      ∀ other, other ≠ collection → after.documents other = store.documents other :=
  -- An object is never refused as a document.
  ⟨store.withDocuments collection (upsertInto filter fields (store.documents collection)), rfl,
    documents_withDocuments .., fun _ different => documents_withDocuments_of_ne different ..⟩

end Harvest.Store
