import Mathlib.Data.List.Induction
import PayGuard.Lib.Runs
import PayGuard.Merchants.Service

/-
  Which keys authenticate a merchant, along any history of
  rotations.

  Two columns and a deadline stand for the whole history:
  the hash of the latest key, the hash of the one before it,
  and the end of the last overlap.

  Key definitions include:
    * `OnRecord`
    * `ValidKey`
    * `KeysNeverRevived`

  Key theorems include:
    * `onRecord_of_exec`
    * `matchesKey_iff`
    * `getCurrentMerchant_eq_ok`
    * `ValidKey.earlier`
    * `rotation_never_revives_keys`
-/

------------------------------------------------------------
-- Issued Keys
------------------------------------------------------------

namespace PayGuard

open Lts

variable {events later : List MerchantEvent}
variable {event : MerchantEvent}
variable {merchantId other : Uuid}
variable {apiKey : String}

theorem keysIssuedTo_append :
    keysIssuedTo merchantId (events ++ later) =
      keysIssuedTo merchantId later ++
        keysIssuedTo merchantId events := by
  unfold keysIssuedTo
  rw [List.filterMap_append, List.reverse_append]

theorem keysIssuedTo_singleton :
    keysIssuedTo merchantId [event] =
      (event.issuedTo merchantId).toList := by
  unfold keysIssuedTo
  cases hKey : event.issuedTo merchantId <;>
    simp [hKey]

theorem lastOverlapEnd_append :
    lastOverlapEnd merchantId (events ++ [event]) =
      (event.overlapEnd merchantId).or
        (lastOverlapEnd merchantId events) := by
  unfold lastOverlapEnd
  cases hEnd : event.overlapEnd merchantId <;>
    simp [List.filterMap_append, hEnd]

/- A key issued to a merchant is issued. -/
theorem MerchantEvent.issued_of_issuedTo
    (hKey : event.issuedTo merchantId = some apiKey) :
    event.issued = some apiKey := by
  cases event with
  | seed id key =>
      simp only [MerchantEvent.issuedTo] at hKey
      split at hKey
      · exact hKey
      · cases hKey
  | rotate id key overlap now =>
      simp only [MerchantEvent.issuedTo] at hKey
      split at hKey
      · exact hKey
      · cases hKey
  | setStatus id status => cases hKey

/- An event issues its key to one merchant. -/
theorem MerchantEvent.issuedTo_unique
    {otherKey : String}
    (hKey : event.issuedTo merchantId = some apiKey)
    (hOther : event.issuedTo other = some otherKey) :
    merchantId = other := by
  cases event with
  | seed id key =>
      simp only [MerchantEvent.issuedTo] at hKey hOther
      split at hKey
      · split at hOther
        · exact Eq.trans (Eq.symm ‹_›) ‹_›
        · cases hOther
      · cases hKey
  | rotate id key overlap now =>
      simp only [MerchantEvent.issuedTo] at hKey hOther
      split at hKey
      · split at hOther
        · exact Eq.trans (Eq.symm ‹_›) ‹_›
        · cases hOther
      · cases hKey
  | setStatus id status => cases hKey

theorem mem_keysIssuedTo :
    apiKey ∈ keysIssuedTo merchantId events ↔
      ∃ event ∈ events,
        event.issuedTo merchantId = some apiKey := by
  unfold keysIssuedTo
  rw [List.mem_reverse, List.mem_filterMap]

/- Where no key is issued twice, each has one owner. -/
theorem owner_unique
    (hFresh : (events.filterMap MerchantEvent.issued).Nodup)
    (hKey : apiKey ∈ keysIssuedTo merchantId events)
    (hOther : apiKey ∈ keysIssuedTo other events) :
    merchantId = other := by
  rcases mem_keysIssuedTo.mp hKey with
    ⟨event, hEvent, hIssued⟩
  rcases mem_keysIssuedTo.mp hOther with
    ⟨event', hEvent', hIssued'⟩
  have hSame :=
    Table.eq_of_nodup_filterMap hFresh hEvent hEvent'
      (MerchantEvent.issued_of_issuedTo hIssued)
      (MerchantEvent.issued_of_issuedTo hIssued')
  subst hSame
  exact MerchantEvent.issuedTo_unique hIssued hIssued'

theorem keysIssuedTo_nodup
    (hFresh : (events.filterMap MerchantEvent.issued).Nodup) :
    (keysIssuedTo merchantId events).Nodup := by
  unfold keysIssuedTo
  rw [List.nodup_reverse]
  apply Table.nodup_filterMap_of_imp hFresh
  intro event apiKey hKey
  exact MerchantEvent.issued_of_issuedTo hKey

end PayGuard

------------------------------------------------------------
-- The Table And Its History
------------------------------------------------------------

namespace PayGuard

open Lts

/- The columns of a row are those of its history. -/
structure Merchant.OnRecord
    (hashApiKey : String → String)
    (events : List MerchantEvent)
    (row : Merchant) : Prop where
  current :
    (keysIssuedTo row.id events).head?.map hashApiKey =
      some row.apiKeyHash
  previous :
    (keysIssuedTo row.id events).tail.head?.map hashApiKey =
      row.previousApiKeyHash
  expiry :
    lastOverlapEnd row.id events =
      row.previousApiKeyExpiresAt

/- So are those of the whole table. -/
structure OnRecord
    (hashApiKey : String → String)
    (events : List MerchantEvent)
    (merchants : List Merchant) : Prop where
  ids : (merchants.map (·.id)).Nodup
  rows : ∀ row ∈ merchants, row.OnRecord hashApiKey events
  absent :
    ∀ merchantId,
      merchantId ∉ merchants.map (·.id) →
        keysIssuedTo merchantId events = [] ∧
          lastOverlapEnd merchantId events = none

variable {hashApiKey : String → String}
variable {events : List MerchantEvent}
variable {event : MerchantEvent}
variable {row : Merchant}
variable {merchants next : List Merchant}
variable {merchantId : Uuid}
variable {apiKey : String}

theorem onRecord_initial : OnRecord hashApiKey [] [] where
  ids := List.nodup_nil
  rows := by
    intro row hRow
    cases hRow
  absent := fun _ _ => ⟨rfl, rfl⟩

theorem keysIssuedTo_snoc :
    keysIssuedTo merchantId (events ++ [event]) =
      (event.issuedTo merchantId).toList ++
        keysIssuedTo merchantId events := by
  rw [keysIssuedTo_append, keysIssuedTo_singleton]

/- An event about others adds nothing to a history. -/
theorem keys_of_other
    (hKey : event.issuedTo merchantId = none)
    (hEnd : event.overlapEnd merchantId = none) :
    keysIssuedTo merchantId (events ++ [event]) =
        keysIssuedTo merchantId events ∧
      lastOverlapEnd merchantId (events ++ [event]) =
        lastOverlapEnd merchantId events := by
  rw [keysIssuedTo_snoc, lastOverlapEnd_append, hKey, hEnd]
  exact ⟨rfl, Option.none_or⟩

theorem Merchant.OnRecord.keep
    (hRecord : row.OnRecord hashApiKey events)
    (hKey : event.issuedTo row.id = none)
    (hEnd : event.overlapEnd row.id = none) :
    row.OnRecord hashApiKey (events ++ [event]) := by
  rcases keys_of_other hKey hEnd with ⟨hKeys, hEnds⟩
  constructor
  · rw [hKeys]
    exact hRecord.current
  · rw [hKeys]
    exact hRecord.previous
  · rw [hEnds]
    exact hRecord.expiry

/- A rotation moves both histories on by one. -/
theorem Merchant.OnRecord.rotate
    (hRecord : row.OnRecord hashApiKey events)
    (overlap now : Timestamp) :
    (rotateApiKey hashApiKey row apiKey overlap
        now).OnRecord hashApiKey
      (events ++ [.rotate row.id apiKey overlap now]) := by
  have hKeys :
      keysIssuedTo row.id
          (events ++ [.rotate row.id apiKey overlap now]) =
        apiKey :: keysIssuedTo row.id events := by
    rw [keysIssuedTo_snoc]
    simp [MerchantEvent.issuedTo]
  constructor
  · show (keysIssuedTo row.id _).head?.map hashApiKey = _
    rw [hKeys]
    rfl
  · show (keysIssuedTo row.id _).tail.head?.map hashApiKey = _
    rw [hKeys]
    exact hRecord.current
  · show lastOverlapEnd row.id _ = _
    rw [lastOverlapEnd_append]
    simp [MerchantEvent.overlapEnd, rotateApiKey]

theorem Merchant.OnRecord.seed
    (hNone :
      keysIssuedTo merchantId events = [] ∧
        lastOverlapEnd merchantId events = none) :
    ({ id := merchantId
       apiKeyHash := hashApiKey apiKey } :
        Merchant).OnRecord hashApiKey
      (events ++ [.seed merchantId apiKey]) := by
  have hKeys :
      keysIssuedTo merchantId
          (events ++ [.seed merchantId apiKey]) =
        [apiKey] := by
    rw [keysIssuedTo_snoc, hNone.1]
    simp [MerchantEvent.issuedTo]
  constructor
  · show (keysIssuedTo merchantId _).head?.map _ = _
    rw [hKeys]
    rfl
  · show (keysIssuedTo merchantId _).tail.head?.map _ = _
    rw [hKeys]
    rfl
  · show lastOverlapEnd merchantId _ = _
    rw [lastOverlapEnd_append, hNone.2]
    rfl

theorem merchantStep_eq_some
    (hStep :
      merchantStep hashApiKey merchants event =
        some next) :
    event.finds merchants ∧ merchantsUnique next ∧
      next = event.apply hashApiKey merchants := by
  unfold merchantStep at hStep
  split at hStep
  · rename_i hBoth
    cases hStep
    exact ⟨hBoth.1, hBoth.2, rfl⟩
  · cases hStep

/- An event adds to the history of its merchant only. -/
theorem MerchantEvent.none_of_ne
    (hOther : event.merchantId ≠ merchantId) :
    event.issuedTo merchantId = none ∧
      event.overlapEnd merchantId = none := by
  cases event with
  | seed id key => exact ⟨if_neg hOther, rfl⟩
  | rotate id key overlap now =>
      exact ⟨if_neg hOther, if_neg hOther⟩
  | setStatus id status => exact ⟨rfl, rfl⟩

/- An event keeps every row, and a seed adds its own. -/
theorem MerchantEvent.mem_apply
    (hMem :
      merchantId ∈ merchants.map (·.id) ∨
        (event.merchantId = merchantId ∧
          event.finds merchants)) :
    merchantId ∈
      (event.apply hashApiKey merchants).map (·.id) := by
  cases event with
  | seed id key =>
      simp only [MerchantEvent.apply, List.map_append,
        List.mem_append]
      rcases hMem with hOld | ⟨rfl, _⟩
      · exact .inl hOld
      · exact .inr (List.mem_singleton_self _)
  | rotate id key overlap now =>
      have hIds :
          ((MerchantEvent.rotate id key overlap now).apply
              hashApiKey merchants).map (·.id) =
            merchants.map (·.id) := by
        apply Table.map_updateWhere
        intro row
        rfl
      rw [hIds]
      rcases hMem with hOld | ⟨rfl, hFinds⟩
      · exact hOld
      · exact hFinds
  | setStatus id status =>
      have hIds :
          ((MerchantEvent.setStatus id status).apply
              hashApiKey merchants).map (·.id) =
            merchants.map (·.id) := by
        apply Table.map_updateWhere
        intro row
        rfl
      rw [hIds]
      rcases hMem with hOld | ⟨rfl, hFinds⟩
      · exact hOld
      · exact hFinds

/- Every row an event leaves is on record. -/
theorem OnRecord.apply
    (hRecord : OnRecord hashApiKey events merchants)
    (hUnique :
      merchantsUnique (event.apply hashApiKey merchants)) :
    ∀ row ∈ event.apply hashApiKey merchants,
      row.OnRecord hashApiKey (events ++ [event]) := by
  intro row hRow
  cases event with
  | seed merchantId apiKey =>
      have hNew : merchantId ∉ merchants.map (·.id) := by
        have hIds := hUnique.1
        unfold MerchantEvent.apply at hIds
        rw [List.map_append, List.nodup_append] at hIds
        intro hMem
        exact hIds.2.2 merchantId hMem merchantId
          (List.mem_singleton_self _) rfl
      unfold MerchantEvent.apply at hRow
      rcases List.mem_append.mp hRow with hOld | hSeeded
      · have hOther : merchantId ≠ row.id := by
          rintro rfl
          exact hNew (List.mem_map_of_mem hOld)
        exact (hRecord.rows row hOld).keep (if_neg hOther)
          rfl
      · rw [List.mem_singleton.mp hSeeded]
        exact .seed (hRecord.absent merchantId hNew)
  | rotate merchantId apiKey overlap now =>
      rcases Table.mem_updateWhere.mp hRow with
        ⟨old, hOld, rfl⟩
      by_cases hOwn : old.id = merchantId
      · subst hOwn
        rw [if_pos (by simp)]
        exact (hRecord.rows old hOld).rotate overlap now
      · rw [if_neg (by simpa using hOwn)]
        exact (hRecord.rows old hOld).keep
          (if_neg (Ne.symm hOwn)) (if_neg (Ne.symm hOwn))
  | setStatus merchantId status =>
      rcases Table.mem_updateWhere.mp hRow with
        ⟨old, hOld, rfl⟩
      have hKept :
          old.OnRecord hashApiKey
            (events ++ [.setStatus merchantId status]) :=
        (hRecord.rows old hOld).keep rfl rfl
      split
      · exact ⟨hKept.current, hKept.previous, hKept.expiry⟩
      · exact hKept

theorem onRecord_step
    (hRecord : OnRecord hashApiKey events merchants)
    (hStep :
      merchantStep hashApiKey merchants event =
        some next) :
    OnRecord hashApiKey (events ++ [event]) next := by
  rcases merchantStep_eq_some hStep with
    ⟨hFinds, hUnique, rfl⟩
  refine ⟨hUnique.1, hRecord.apply hUnique, ?_⟩
  intro merchantId hAbsent
  have hOther : event.merchantId ≠ merchantId := by
    rintro rfl
    exact hAbsent (MerchantEvent.mem_apply (.inr ⟨rfl, hFinds⟩))
  rcases MerchantEvent.none_of_ne hOther with ⟨hKey, hEnd⟩
  rcases keys_of_other hKey hEnd with ⟨hKeys, hEnds⟩
  rw [hKeys, hEnds]
  apply hRecord.absent
  intro hMem
  exact hAbsent (MerchantEvent.mem_apply (.inl hMem))

theorem onRecord_of_exec
    (hRun :
      exec (merchantStep hashApiKey) [] events =
        some merchants) :
    OnRecord hashApiKey events merchants := by
  induction events using List.reverseRecOn generalizing
    merchants with
  | nil =>
      cases hRun
      exact onRecord_initial
  | append_singleton events event ih =>
      rcases exec_append_eq_some.mp hRun with
        ⟨before, hBefore, hLast⟩
      rcases exec_cons_eq_some.mp hLast with
        ⟨next, hStep, hDone⟩
      cases hDone
      exact onRecord_step (ih hBefore) hStep

end PayGuard

------------------------------------------------------------
-- Accepted Keys
------------------------------------------------------------

namespace PayGuard

open Lts

/-
  The latest key of a merchant, or the one before it while
  the last overlap runs.
-/
def ValidKey
    (events : List MerchantEvent)
    (merchantId : Uuid)
    (apiKey : String)
    (now : Timestamp) : Prop :=
  (keysIssuedTo merchantId events).head? = some apiKey ∨
    ((keysIssuedTo merchantId events).tail.head? =
        some apiKey ∧
      ∃ deadline,
        lastOverlapEnd merchantId events = some deadline ∧
          now < deadline)

variable {hashApiKey : String → String}
variable {events later : List MerchantEvent}
variable {row : Merchant}
variable {merchants : List Merchant}
variable {merchantId : Uuid}
variable {authorization : Option String}
variable {apiKey : String}
variable {now : Timestamp}

/- A valid key has been issued to its merchant. -/
theorem ValidKey.issued
    (hValid : ValidKey events merchantId apiKey now) :
    apiKey ∈ keysIssuedTo merchantId events := by
  rcases hValid with hCurrent | ⟨hPrevious, _⟩
  · exact List.mem_of_head? hCurrent
  · exact List.mem_of_mem_tail (List.mem_of_head? hPrevious)

theorem map_eq_some_iff_of_injective
    (hInjective : Function.Injective hashApiKey)
    (key : Option String) :
    key.map hashApiKey = some (hashApiKey apiKey) ↔
      key = some apiKey := by
  cases key with
  | none => simp
  | some key => simp [hInjective.eq_iff]

/- The `WHERE` clause selects the rows a key is valid for. -/
theorem matchesKey_iff
    (hInjective : Function.Injective hashApiKey)
    (hRecord : row.OnRecord hashApiKey events) :
    row.matchesKey (hashApiKey apiKey) now = true ↔
      ValidKey events row.id apiKey now := by
  have hCurrent :
      row.apiKeyHash = hashApiKey apiKey ↔
        (keysIssuedTo row.id events).head? = some apiKey := by
    rw [← Option.some.injEq, ← hRecord.current]
    exact map_eq_some_iff_of_injective hInjective _
  have hPrevious :
      row.previousApiKeyHash = some (hashApiKey apiKey) ↔
        (keysIssuedTo row.id events).tail.head? =
          some apiKey := by
    rw [← hRecord.previous]
    exact map_eq_some_iff_of_injective hInjective _
  unfold Merchant.matchesKey ValidKey
  rw [Bool.or_eq_true, Bool.and_eq_true, decide_eq_true_eq,
    decide_eq_true_eq, hCurrent, hPrevious, hRecord.expiry,
    Option.any_eq_true]
  simp only [decide_eq_true_eq]

/- Every row the lookup selects is the same one. -/
theorem selected_unique
    (hInjective : Function.Injective hashApiKey)
    (hFresh : (events.filterMap MerchantEvent.issued).Nodup)
    (hRecord : OnRecord hashApiKey events merchants)
    {other : Merchant}
    (hRow : row ∈ merchants)
    (hOther : other ∈ merchants)
    (hValid : ValidKey events row.id apiKey now)
    (hMatches :
      other.matchesKey (hashApiKey apiKey) now = true) :
    other = row := by
  have hOtherValid :=
    (matchesKey_iff hInjective
      (hRecord.rows other hOther)).mp hMatches
  have hId : other.id = row.id :=
    owner_unique hFresh hOtherValid.issued hValid.issued
  exact List.inj_on_of_nodup_map hRecord.ids hOther hRow hId

/- The lookup selects one row or none. -/
theorem selected_cases
    (hInjective : Function.Injective hashApiKey)
    (hFresh : (events.filterMap MerchantEvent.issued).Nodup)
    (hRecord : OnRecord hashApiKey events merchants)
    (apiKey : String)
    (now : Timestamp) :
    (∃ row ∈ merchants,
        ValidKey events row.id apiKey now ∧
          merchants.filter (fun merchant =>
            merchant.matchesKey (hashApiKey apiKey) now) =
              [row]) ∨
      ((∀ row ∈ merchants,
          ¬ ValidKey events row.id apiKey now) ∧
        merchants.filter (fun merchant =>
          merchant.matchesKey (hashApiKey apiKey) now) =
            []) := by
  by_cases hSome :
      ∃ row ∈ merchants, ValidKey events row.id apiKey now
  · rcases hSome with ⟨row, hRow, hValid⟩
    refine .inl ⟨row, hRow, hValid, ?_⟩
    rw [← Table.filter_key_eq hRecord.ids hRow]
    apply List.filter_congr
    intro other hOther
    rw [Bool.eq_iff_iff, decide_eq_true_eq]
    constructor
    · intro hMatches
      rw [selected_unique hInjective hFresh hRecord hRow
        hOther hValid hMatches]
    · intro hId
      cases List.inj_on_of_nodup_map hRecord.ids hOther hRow
        hId
      exact (matchesKey_iff hInjective
        (hRecord.rows _ hRow)).mpr hValid
  · refine .inr ⟨?_, ?_⟩
    · intro row hRow hValid
      exact hSome ⟨row, hRow, hValid⟩
    · rw [List.filter_eq_nil_iff]
      intro row hRow hMatches
      exact hSome ⟨row, hRow,
        (matchesKey_iff hInjective
          (hRecord.rows row hRow)).mp hMatches⟩

theorem getCurrentMerchant_eq_ok
    (hInjective : Function.Injective hashApiKey)
    (hFresh : (events.filterMap MerchantEvent.issued).Nodup)
    (hRecord : OnRecord hashApiKey events merchants)
    (hKey : presentedKey authorization = some apiKey) :
    getCurrentMerchant hashApiKey merchants authorization
        now = .ok row ↔
      row ∈ merchants ∧ row.status = .active ∧
        ValidKey events row.id apiKey now := by
  unfold getCurrentMerchant
  rw [hKey]
  rcases selected_cases hInjective hFresh hRecord apiKey
      now with
    ⟨found, hFound, hValid, hRows⟩ | ⟨hNone, hRows⟩
  · simp only [hRows]
    split
    · rename_i hActive
      constructor
      · intro hOk
        cases hOk
        exact ⟨hFound, hActive, hValid⟩
      · rintro ⟨hRow, _, hRowValid⟩
        have hId : found.id = row.id :=
          owner_unique hFresh hValid.issued hRowValid.issued
        rw [List.inj_on_of_nodup_map hRecord.ids hFound hRow
          hId]
    · rename_i hInactive
      constructor
      · intro hOk
        cases hOk
      · rintro ⟨hRow, hActive, hRowValid⟩
        have hId : found.id = row.id :=
          owner_unique hFresh hValid.issued hRowValid.issued
        rw [List.inj_on_of_nodup_map hRecord.ids hFound hRow
          hId] at hInactive
        exact absurd hActive hInactive
  · simp only [hRows]
    constructor
    · intro hOk
      cases hOk
    · rintro ⟨hRow, _, hValid⟩
      exact absurd hValid (hNone row hRow)

theorem getCurrentMerchant_ne_multiple
    (hInjective : Function.Injective hashApiKey)
    (hFresh : (events.filterMap MerchantEvent.issued).Nodup)
    (hRecord : OnRecord hashApiKey events merchants) :
    getCurrentMerchant hashApiKey merchants authorization
        now ≠ .error .multipleResultsFound := by
  unfold getCurrentMerchant
  intro hMultiple
  split at hMultiple
  · cases hMultiple
  · rename_i apiKey _
    rcases selected_cases hInjective hFresh hRecord apiKey
        now with
      ⟨found, _, _, hRows⟩ | ⟨_, hRows⟩
    · simp only [hRows] at hMultiple
      split at hMultiple <;> cases hMultiple
    · simp only [hRows] at hMultiple
      cases hMultiple

/- Without a new key the overlap stays as it is. -/
theorem lastOverlapEnd_of_no_keys
    (hNone : keysIssuedTo merchantId later = []) :
    lastOverlapEnd merchantId (events ++ later) =
      lastOverlapEnd merchantId events := by
  have hEnds :
      later.filterMap (MerchantEvent.overlapEnd merchantId) =
        [] := by
    rw [List.filterMap_eq_nil_iff]
    intro event hEvent
    have hKey : event.issuedTo merchantId = none := by
      cases hCase : event.issuedTo merchantId with
      | none => rfl
      | some key =>
          have hMem :=
            mem_keysIssuedTo.mpr ⟨event, hEvent, hCase⟩
          rw [hNone] at hMem
          cases hMem
    cases event with
    | seed id key => rfl
    | rotate id key overlap now =>
        simp only [MerchantEvent.issuedTo] at hKey
        split at hKey
        · cases hKey
        · rename_i hOther
          exact if_neg hOther
    | setStatus id status => rfl
  unfold lastOverlapEnd
  rw [List.filterMap_append, hEnds, List.append_nil]

/-
  A key that is valid again later was valid before.  It can
  only have moved down in the list of issued keys.
-/
theorem ValidKey.earlier
    {before : Timestamp}
    (hFresh :
      ((events ++ later).filterMap MerchantEvent.issued).Nodup)
    (hIssued : apiKey ∈ keysIssuedTo merchantId events)
    (hTime : before ≤ now)
    (hValid :
      ValidKey (events ++ later) merchantId apiKey now) :
    ValidKey events merchantId apiKey before := by
  have hNodup :
      (keysIssuedTo merchantId (events ++ later)).Nodup :=
    keysIssuedTo_nodup hFresh
  unfold ValidKey at hValid
  rw [keysIssuedTo_append] at hNodup hValid
  have hApart :
      apiKey ∉ keysIssuedTo merchantId later := by
    intro hLater
    exact (List.nodup_append.mp hNodup).2.2 apiKey hLater
      apiKey hIssued rfl
  cases hLater : keysIssuedTo merchantId later with
  | nil =>
      rw [hLater, List.nil_append,
        lastOverlapEnd_of_no_keys hLater] at hValid
      rcases hValid with
        hCurrent | ⟨hPrevious, deadline, hEnd, hBefore⟩
      · exact .inl hCurrent
      · exact .inr ⟨hPrevious, deadline, hEnd,
          hTime.trans_lt hBefore⟩
  | cons latest rest =>
      rw [hLater] at hValid hApart
      rcases hValid with hCurrent | ⟨hPrevious, _⟩
      · cases hCurrent
        exact absurd List.mem_cons_self hApart
      · cases rest with
        | nil => exact .inl hPrevious
        | cons second rest =>
            cases hPrevious
            exact absurd
              (List.mem_cons_of_mem _ List.mem_cons_self)
              hApart

end PayGuard

------------------------------------------------------------
-- Histories Of Rotations
------------------------------------------------------------

namespace PayGuard

open Lts

/- A request with this header is let in as this merchant. -/
def Admitted
    (hashApiKey : String → String)
    (merchants : List Merchant)
    (apiKey : String)
    (now : Timestamp)
    (row : Merchant) : Prop :=
  ∃ authorization,
    presentedKey authorization = some apiKey ∧
      getCurrentMerchant hashApiKey merchants authorization
        now = .ok row

/- What a history promises of the table it leaves. -/
structure KeysNeverRevived
    (hashApiKey : String → String)
    (events : List MerchantEvent)
    (merchants : List Merchant) : Prop where
  accepts :
    ∀ authorization apiKey now row,
      presentedKey authorization = some apiKey →
        (getCurrentMerchant hashApiKey merchants
              authorization now = .ok row ↔
          row ∈ merchants ∧ row.status = .active ∧
            ValidKey events row.id apiKey now)
  atMostTwo :
    ∀ merchantId now (keys : List String),
      keys.Nodup →
        (∀ apiKey ∈ keys,
          ∃ row,
            row.id = merchantId ∧
              Admitted hashApiKey merchants apiKey now
                row) →
          keys.length ≤ 2
  owner :
    ∀ apiKey now row,
      Admitted hashApiKey merchants apiKey now row →
        ∀ merchantId,
          apiKey ∈ keysIssuedTo merchantId events ↔
            merchantId = row.id
  oneRow :
    ∀ authorization now,
      getCurrentMerchant hashApiKey merchants authorization
        now ≠ .error .multipleResultsFound
  neverRevived :
    ∀ later laterMerchants,
      ((events ++ later).filterMap
          MerchantEvent.issued).Nodup →
        exec (merchantStep hashApiKey) merchants later =
            some laterMerchants →
          ∀ authorization apiKey before now row,
            presentedKey authorization = some apiKey →
              row ∈ merchants →
                row.status = .active →
                  apiKey ∈ keysIssuedTo row.id events →
                    getCurrentMerchant hashApiKey merchants
                        authorization before ≠ .ok row →
                      before ≤ now →
                        ∀ accepted,
                          getCurrentMerchant hashApiKey
                              laterMerchants authorization
                              now ≠ .ok accepted

variable {hashApiKey : String → String}
variable {events : List MerchantEvent}
variable {merchants : List Merchant}

/- The keys valid for a merchant are its latest two. -/
theorem length_le_two_of_valid
    {merchantId : Uuid}
    {now : Timestamp}
    {keys : List String}
    (hNodup : keys.Nodup)
    (hValid :
      ∀ apiKey ∈ keys,
        ValidKey events merchantId apiKey now) :
    keys.length ≤ 2 := by
  have hSubset :
      keys ⊆ (keysIssuedTo merchantId events).take 2 := by
    intro apiKey hKey
    have hCase := hValid apiKey hKey
    unfold ValidKey at hCase
    cases hIssued : keysIssuedTo merchantId events with
    | nil =>
        rw [hIssued] at hCase
        rcases hCase with hCurrent | ⟨hPrevious, _⟩
        · cases hCurrent
        · cases hPrevious
    | cons latest rest =>
        rw [hIssued] at hCase
        rcases hCase with hCurrent | ⟨hPrevious, _⟩
        · cases hCurrent
          exact List.mem_cons_self
        · cases rest with
          | nil => cases hPrevious
          | cons second rest =>
              cases hPrevious
              simp
  have hLength :=
    (List.subperm_of_subset hNodup hSubset).length_le
  rw [List.length_take] at hLength
  omega

/-
  Every history of seeds, rotations and status changes
  leaves a table that accepts a key while it is valid, and
  never again.
-/
theorem rotation_never_revives_keys
    {hashApiKey : String → String}
    {events : List MerchantEvent}
    {merchants : List Merchant}
    (hInjective : Function.Injective hashApiKey)
    (hFresh : (events.filterMap MerchantEvent.issued).Nodup)
    (hRun :
      exec (merchantStep hashApiKey) [] events =
        some merchants) :
    KeysNeverRevived hashApiKey events merchants := by
  have hRecord := onRecord_of_exec hRun
  have hAccepts :
      ∀ authorization apiKey now row,
        presentedKey authorization = some apiKey →
          (getCurrentMerchant hashApiKey merchants
                authorization now = .ok row ↔
            row ∈ merchants ∧ row.status = .active ∧
              ValidKey events row.id apiKey now) :=
    fun _ _ _ _ hKey =>
      getCurrentMerchant_eq_ok hInjective hFresh hRecord hKey
  refine ⟨hAccepts, ?_, ?_, ?_, ?_⟩
  · intro merchantId now keys hNodup hAdmitted
    have hValid :
        ∀ apiKey ∈ keys,
          ValidKey events merchantId apiKey now := by
      intro apiKey hKey
      rcases hAdmitted apiKey hKey with
        ⟨row, rfl, authorization, hPresented, hOk⟩
      exact ((hAccepts _ _ _ _ hPresented).mp hOk).2.2
    exact length_le_two_of_valid hNodup hValid
  · rintro apiKey now row ⟨authorization, hPresented, hOk⟩
    have hValid := ((hAccepts _ _ _ _ hPresented).mp hOk).2.2
    intro merchantId
    constructor
    · intro hIssued
      exact owner_unique hFresh hIssued hValid.issued
    · rintro rfl
      exact hValid.issued
  · intro authorization now
    exact getCurrentMerchant_ne_multiple hInjective hFresh
      hRecord
  · intro later laterMerchants hLaterFresh hLaterRun
      authorization apiKey before now row hPresented hRow
      hActive hIssued hRejected hTime accepted hOk
    have hWhole :
        exec (merchantStep hashApiKey) [] (events ++ later) =
          some laterMerchants :=
      exec_append_eq_some.mpr ⟨merchants, hRun, hLaterRun⟩
    have hValid :=
      ((getCurrentMerchant_eq_ok hInjective hLaterFresh
        (onRecord_of_exec hWhole) hPresented).mp hOk).2.2
    -- the key cannot have changed hands
    have hStill :
        apiKey ∈ keysIssuedTo row.id (events ++ later) := by
      rw [keysIssuedTo_append]
      exact List.mem_append_right _ hIssued
    have hId : accepted.id = row.id :=
      owner_unique hLaterFresh hValid.issued hStill
    rw [hId] at hValid
    have hEarlier :=
      hValid.earlier hLaterFresh hIssued hTime
    exact hRejected ((hAccepts _ _ _ _ hPresented).mpr
      ⟨hRow, hActive, hEarlier⟩)

/- Two merchants; the first rotates twice. -/
def rotatedTwice : List MerchantEvent :=
  [.seed 1 "sk_test_a", .seed 2 "sk_test_x",
    .rotate 1 "sk_test_b" 3600 100,
    .rotate 1 "sk_test_c" 3600 200]

/- The digest is its own input here. -/
theorem rotation_never_revives_keys_twice :
    ∃ merchants,
      exec (merchantStep id) [] rotatedTwice = some merchants ∧
        ValidKey rotatedTwice 1 "sk_test_c" 300 ∧
        ValidKey rotatedTwice 1 "sk_test_b" 300 ∧
        ¬ ValidKey rotatedTwice 1 "sk_test_a" 300 ∧
        (getCurrentMerchant id merchants
            (some "Bearer sk_test_b") 300).toOption.map
              (·.id) = some 1 ∧
        KeysNeverRevived id rotatedTwice merchants := by
  have hRun :
      (exec (merchantStep id) [] rotatedTwice).map
        (fun merchants =>
          (getCurrentMerchant id merchants
            (some "Bearer sk_test_b") 300).toOption.map
              (·.id)) = some (some 1) := by
    decide +kernel
  rcases Option.map_eq_some_iff.mp hRun with
    ⟨merchants, hExec, hAdmitted⟩
  refine ⟨merchants, hExec, .inl (by decide +kernel),
    .inr ⟨by decide +kernel, 3800, by decide +kernel,
      by decide⟩, ?_, hAdmitted,
    rotation_never_revives_keys Function.injective_id
      (by decide +kernel) hExec⟩
  rintro (hCurrent | ⟨hPrevious, _⟩)
  · revert hCurrent
    decide +kernel
  · revert hPrevious
    decide +kernel

end PayGuard
