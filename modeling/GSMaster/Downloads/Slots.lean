import GSMaster.Downloads.Pool

/-!
# The download slots agree

The counter of the active downloads, the slots in use, the easy handles and
the transfers that libcurl has are kept in step by two functions that know
nothing of each other.
-/

namespace GSMaster.Downloads

open GSMaster.Text GSMaster.Library GSMaster.Lists

namespace Pool

/-! ## The invariant -/

/-- The counter, the slots, the easy handles and libcurl agree on what is running. -/
structure Sound (pool : Pool) : Prop where
  counted : pool.activeHandles = occupied pool.inUse
  slots : (pool.multiHandle.map Transfer.privateData).Nodup
  handles : (pool.multiHandle.map Transfer.easyHandle).Nodup
  running : ∀ transfer ∈ pool.multiHandle,
    pool.inUse transfer.privateData = true ∧
      (pool.curlHelper transfer.privateData).downloadHandle = some transfer.writeData ∧
      pool.easyHandles transfer.privateData = some transfer.easyHandle
  served : ∀ i, pool.inUse i = true → ∃ transfer ∈ pool.multiHandle, transfer.privateData = i
  registered : ∀ i easyHandle, pool.easyHandles i = some easyHandle →
    ∃ transfer ∈ pool.multiHandle, transfer.privateData = i ∧ transfer.easyHandle = easyHandle

theorem initial_sound : initial.Sound where
  counted := by decide
  slots := List.nodup_nil
  handles := List.nodup_nil
  running := fun _ member => by cases member
  served := fun _ taken => by cases taken
  registered := fun _ _ held => by cases held

theorem Sound.within {pool : Pool} (sound : pool.Sound) :
    0 ≤ pool.activeHandles ∧ pool.activeHandles ≤ maxConcurrentCurlHandles := by
  have most : occupied pool.inUse ≤ maxConcurrentCurlHandles := by
    simpa only [Fintype.card_fin] using occupied_le pool.inUse
  have counted := sound.counted
  omega

theorem Sound.transfer_inj {pool : Pool} (sound : pool.Sound) {transfer other : Transfer}
    (here : transfer ∈ pool.multiHandle) (there : other ∈ pool.multiHandle)
    (same : other.privateData = transfer.privateData) : other = transfer :=
  List.inj_on_of_nodup_map sound.slots there here same

/-- Below the limit the search finds a slot, and it finds free slots only. -/
theorem findFree_some {pool : Pool} (sound : pool.Sound)
    (room : pool.activeHandles < maxConcurrentCurlHandles) :
    ∃ i, pool.findFree = some i ∧ pool.inUse i = false := by
  have notFull : occupied pool.inUse < Fintype.card Slot := by
    have counted := sound.counted
    rw [Fintype.card_fin]
    omega
  obtain ⟨free, unused⟩ := occupied_lt_iff.mp notFull
  cases found : pool.findFree with
  | none =>
      have taken := List.find?_eq_none.mp found free (List.mem_finRange free)
      rw [unused] at taken
      exact absurd rfl taken
  | some i => exact ⟨i, rfl, by simpa using List.find?_some found⟩

/-- The choice of a slot stays inside the arrays and finds one exactly below the limit. -/
theorem chooseSlot_cases {pool : Pool} (sound : pool.Sound) :
    ¬ pool.activeHandles < maxConcurrentCurlHandles ∧ pool.chooseSlot = some none ∨
      pool.activeHandles < maxConcurrentCurlHandles ∧
        ∃ i, pool.chooseSlot = some (some i) ∧ pool.inUse i = false := by
  unfold chooseSlot
  by_cases room : pool.activeHandles < maxConcurrentCurlHandles
  · refine Or.inr ⟨room, ?_⟩
    obtain ⟨free, found, unused⟩ := findFree_some sound room
    rw [if_neg (Int.not_le.mpr room), slotOf, dif_pos ⟨sound.within.1, room⟩, Option.map_some,
      if_pos room, found]
    split
    · exact ⟨free, rfl, unused⟩
    · rename_i guess
      exact ⟨_, rfl, Bool.eq_false_iff.mpr guess⟩
  · exact Or.inl ⟨room, if_pos (Int.not_lt.mp room)⟩

/-- A start does nothing, or it fills a slot that is not in use. -/
theorem startDownload_cases {pool : Pool} (sound : pool.Sound) (request : Request)
    (supply : Supply) :
    ¬ (pool.activeHandles < maxConcurrentCurlHandles ∧ request.Complete) ∧
        pool.startDownload request supply = some (pool, 0) ∨
      pool.activeHandles < maxConcurrentCurlHandles ∧
        ∃ url filename gamename i, request = ⟨some url, some filename, some gamename⟩ ∧
          pool.inUse i = false ∧
          pool.startDownload request supply =
            some (pool.fill url filename gamename supply i) := by
  match request with
  | ⟨none, _, _⟩ => exact Or.inl ⟨fun given => given.2.1 rfl, rfl⟩
  | ⟨some _, none, _⟩ => exact Or.inl ⟨fun given => given.2.2.1 rfl, rfl⟩
  | ⟨some _, some _, none⟩ => exact Or.inl ⟨fun given => given.2.2.2 rfl, rfl⟩
  | ⟨some url, some filename, some gamename⟩ =>
      rw [startDownload]
      rcases chooseSlot_cases sound with ⟨full, chosen⟩ | ⟨room, i, chosen, unused⟩
      · exact Or.inl ⟨fun given => full given.1, by rw [chosen]⟩
      · exact Or.inr ⟨room, url, filename, gamename, i, rfl, unused, by rw [chosen]⟩

/-! ## What a start changes -/

/-- Another helper in a slot changes whether that slot is in use. -/
theorem inUse_update (pool : Pool) (i : Slot) (helper : CurlHelper) :
    inUse { pool with curlHelper := Function.update pool.curlHelper i helper } =
      Function.update pool.inUse i helper.inUse :=
  Function.comp_update CurlHelper.inUse pool.curlHelper i helper

theorem filename_update (pool : Pool) (i : Slot) (helper : CurlHelper) :
    filename { pool with curlHelper := Function.update pool.curlHelper i helper } =
      Function.update pool.filename i helper.filename :=
  Function.comp_update CurlHelper.filename pool.curlHelper i helper

/-- The download has been given the free slot `i`, and nothing else has changed. -/
structure Started (filename gamename : CString) (stream easyHandle : Nat) (i : Slot)
    (pool pool' : Pool) : Prop where
  free : pool.inUse i = false
  helper : pool'.curlHelper = Function.update pool.curlHelper i
    ⟨some stream, nameBuffer filename, nameBuffer gamename, true⟩
  easyHandles : pool'.easyHandles = Function.update pool.easyHandles i (some easyHandle)
  activeHandles : pool'.activeHandles = pool.activeHandles + 1
  multiHandle : ∃ url, pool'.multiHandle = ⟨easyHandle, url, stream, i⟩ :: pool.multiHandle

/-- Nothing has changed but what is left in slots that are not in use. -/
structure Refused (pool pool' : Pool) : Prop where
  inUse : pool'.inUse = pool.inUse
  helper : ∀ i, pool.inUse i = true → pool'.curlHelper i = pool.curlHelper i
  easyHandles : pool'.easyHandles = pool.easyHandles
  activeHandles : pool'.activeHandles = pool.activeHandles
  multiHandle : pool'.multiHandle = pool.multiHandle

theorem Refused.refl (pool : Pool) : Refused pool pool :=
  ⟨rfl, fun _ _ => rfl, rfl, rfl, rfl⟩

/-- A start returns 1 and has started the download, or returns 0 and has changed nothing. -/
theorem startDownload_spec {pool : Pool} (sound : pool.Sound) (request : Request)
    (supply : Supply) :
    (∃ pool' filename gamename stream i,
        pool.startDownload request supply = some (pool', 1) ∧
        pool.activeHandles < maxConcurrentCurlHandles ∧ request.Opens supply ∧
        request.filename = some filename ∧
        Started filename gamename stream supply.easyHandle i pool pool') ∨
      ∃ pool', pool.startDownload request supply = some (pool', 0) ∧
        ¬ (pool.activeHandles < maxConcurrentCurlHandles ∧ request.Opens supply) ∧
        Refused pool pool' := by
  rcases startDownload_cases sound request supply with
    ⟨refused, same⟩ | ⟨room, url, filename, gamename, i, rfl, unused, filled⟩
  · exact Or.inr ⟨pool, same, fun given => refused ⟨given.1, given.2.1⟩, Refused.refl pool⟩
  · have complete : Request.Complete ⟨some url, some filename, some gamename⟩ :=
      ⟨Option.some_ne_none _, Option.some_ne_none _, Option.some_ne_none _⟩
    obtain ⟨stream, easyHandle⟩ := supply
    cases stream with
    | none =>
        refine Or.inr ⟨_, filled, fun given => given.2.2 rfl, ?_⟩
        refine ⟨?_, fun j taken => Function.update_of_ne ?_ _ _, rfl, rfl, rfl⟩
        · exact (inUse_update pool i _).trans (Function.update_eq_self_iff.mpr unused.symm)
        · rintro rfl
          rw [unused] at taken
          cases taken
    | some stream =>
        exact Or.inl ⟨_, filename, gamename, stream, i, filled, room,
          ⟨complete, Option.some_ne_none _⟩, rfl, unused, rfl, rfl, rfl, _, rfl⟩

theorem Started.inUse {filename gamename : CString} {stream easyHandle : Nat} {i : Slot}
    {pool pool' : Pool} (started : Started filename gamename stream easyHandle i pool pool') :
    pool'.inUse = Function.update pool.inUse i true := by
  have taken : pool'.inUse = CurlHelper.inUse ∘ pool'.curlHelper := rfl
  rw [taken, started.helper, Function.comp_update]
  rfl

theorem Started.filename {filename gamename : CString} {stream easyHandle : Nat} {i : Slot}
    {pool pool' : Pool} (started : Started filename gamename stream easyHandle i pool pool') :
    pool'.filename = Function.update pool.filename i (nameBuffer filename) := by
  have names : pool'.filename = CurlHelper.filename ∘ pool'.curlHelper := rfl
  rw [names, started.helper, Function.comp_update]
  rfl

/-- A slot in use is not the one that a start takes. -/
theorem Started.elsewhere {filename gamename : CString} {stream easyHandle : Nat} {i j : Slot}
    {pool pool' : Pool} (started : Started filename gamename stream easyHandle i pool pool')
    (taken : pool.inUse j = true) : j ≠ i := by
  rintro rfl
  rw [started.free] at taken
  cases taken

theorem Started.sound {filename gamename : CString} {stream easyHandle : Nat} {i : Slot}
    {pool pool' : Pool} (started : Started filename gamename stream easyHandle i pool pool')
    (sound : pool.Sound)
    (fresh : ∀ transfer ∈ pool.multiHandle, transfer.easyHandle ≠ easyHandle) : pool'.Sound := by
  obtain ⟨url, multi⟩ := started.multiHandle
  have other {transfer : Transfer} (member : transfer ∈ pool.multiHandle) :
      transfer.privateData ≠ i :=
    started.elsewhere (sound.running transfer member).1
  constructor
  · rw [started.activeHandles, started.inUse, occupied_take started.free, sound.counted]
    rfl
  · rw [multi, List.map_cons, List.nodup_cons]
    refine ⟨fun member => ?_, sound.slots⟩
    obtain ⟨transfer, running, same⟩ := List.mem_map.mp member
    exact other running same
  · rw [multi, List.map_cons, List.nodup_cons]
    refine ⟨fun member => ?_, sound.handles⟩
    obtain ⟨transfer, running, same⟩ := List.mem_map.mp member
    exact fresh transfer running same
  · rw [multi, started.inUse, started.helper, started.easyHandles]
    intro transfer member
    rcases List.mem_cons.mp member with rfl | running
    · simp only [Function.update_self, and_self]
    · simp only [Function.update_of_ne (other running)]
      exact sound.running transfer running
  · rw [multi, started.inUse]
    intro j taken
    by_cases same : j = i
    · exact ⟨_, List.mem_cons_self .., same.symm⟩
    · rw [Function.update_of_ne same] at taken
      obtain ⟨transfer, running, here⟩ := sound.served j taken
      exact ⟨transfer, List.mem_cons_of_mem _ running, here⟩
  · rw [multi, started.easyHandles]
    intro j held registered
    by_cases same : j = i
    · rw [same, Function.update_self] at registered
      exact ⟨_, List.mem_cons_self .., same.symm, Option.some.inj registered⟩
    · rw [Function.update_of_ne same] at registered
      obtain ⟨transfer, running, here⟩ := sound.registered j held registered
      exact ⟨transfer, List.mem_cons_of_mem _ running, here⟩

theorem Refused.sound {pool pool' : Pool} (refused : Refused pool pool') (sound : pool.Sound) :
    pool'.Sound := by
  obtain ⟨inUse, helper, easyHandles, activeHandles, multiHandle⟩ := refused
  constructor
  · rw [activeHandles, inUse, sound.counted]
  · rw [multiHandle]
    exact sound.slots
  · rw [multiHandle]
    exact sound.handles
  · rw [multiHandle, inUse, easyHandles]
    intro transfer running
    rw [helper _ (sound.running transfer running).1]
    exact sound.running transfer running
  · rw [multiHandle, inUse]
    exact sound.served
  · rw [multiHandle, easyHandles]
    exact sound.registered

/-! ## What a completion changes -/

/-- The slot of the download is free, and nothing else has changed. -/
structure Finished (transfer : Transfer) (pool pool' : Pool) : Prop where
  inUse : pool'.inUse = Function.update pool.inUse transfer.privateData false
  filename : pool'.filename = pool.filename
  helper : ∀ i, i ≠ transfer.privateData → pool'.curlHelper i = pool.curlHelper i
  easyHandles : pool'.easyHandles = Function.update pool.easyHandles transfer.privateData none
  activeHandles : pool'.activeHandles = pool.activeHandles - 1
  multiHandle : pool'.multiHandle =
    pool.multiHandle.filter fun other => other.easyHandle != transfer.easyHandle

/-- The search of `CURL_HTTP_Reset` comes to the slot of the download. -/
theorem find_easyHandle {pool : Pool} (sound : pool.Sound) {transfer : Transfer}
    (running : transfer ∈ pool.multiHandle) :
    (List.finRange maxConcurrentCurlHandles).find? (fun i =>
      pool.easyHandles i == some transfer.easyHandle) = some transfer.privateData := by
  cases found : (List.finRange maxConcurrentCurlHandles).find? (fun i =>
      pool.easyHandles i == some transfer.easyHandle) with
  | none =>
      have missing := List.find?_eq_none.mp found transfer.privateData (List.mem_finRange _)
      exact absurd (beq_iff_eq.mpr (sound.running transfer running).2.2) missing
  | some i =>
      have here := List.find?_some found
      obtain ⟨other, there, slot, same⟩ := sound.registered i _ (beq_iff_eq.mp here)
      rw [← slot, List.inj_on_of_nodup_map sound.handles there running same]

theorem finish_spec {pool : Pool} (sound : pool.Sound) {transfer : Transfer}
    (running : transfer ∈ pool.multiHandle) (responseCode : Int) :
    Finished transfer pool (pool.finish transfer responseCode).1 := by
  have taken := (sound.running transfer running).1
  have positive : 0 < pool.activeHandles := by
    have some_taken := occupied_pos taken
    have counted := sound.counted
    omega
  constructor
  · exact inUse_update pool transfer.privateData _
  · exact (filename_update pool transfer.privateData _).trans (Function.update_eq_self ..)
  · exact fun i other => Function.update_of_ne other ..
  · simp only [finish, reset, find_easyHandle sound running]
  · simp only [finish, reset]
    exact if_neg (by omega)
  · rfl

theorem Finished.sound {transfer : Transfer} {pool pool' : Pool}
    (finished : Finished transfer pool pool') (sound : pool.Sound)
    (running : transfer ∈ pool.multiHandle) : pool'.Sound := by
  have taken := (sound.running transfer running).1
  -- what is left in the multi handle, and where it is
  have left {other : Transfer} : other ∈ pool'.multiHandle ↔
      other ∈ pool.multiHandle ∧ other.easyHandle ≠ transfer.easyHandle := by
    rw [finished.multiHandle, List.mem_filter, bne_iff_ne]
  have apart {other : Transfer} (member : other ∈ pool.multiHandle)
      (different : other.easyHandle ≠ transfer.easyHandle) :
      other.privateData ≠ transfer.privateData := by
    intro same
    exact different (congrArg Transfer.easyHandle (sound.transfer_inj running member same))
  have fewer : pool'.multiHandle.Sublist pool.multiHandle := by
    rw [finished.multiHandle]
    exact List.filter_sublist
  constructor
  · have released := occupied_release taken
    have counted := sound.counted
    rw [finished.activeHandles, finished.inUse]
    omega
  · exact sound.slots.sublist (fewer.map _)
  · exact sound.handles.sublist (fewer.map _)
  · intro other member
    obtain ⟨held, different⟩ := left.mp member
    have elsewhere := apart held different
    rw [finished.inUse, finished.helper _ elsewhere, finished.easyHandles,
      Function.update_of_ne elsewhere, Function.update_of_ne elsewhere]
    exact sound.running other held
  · intro i still
    rw [finished.inUse] at still
    by_cases same : i = transfer.privateData
    · rw [same, Function.update_self] at still
      cases still
    · rw [Function.update_of_ne same] at still
      obtain ⟨other, held, slot⟩ := sound.served i still
      refine ⟨other, left.mpr ⟨held, fun handle => same ?_⟩, slot⟩
      rw [← slot, List.inj_on_of_nodup_map sound.handles held running handle]
  · intro i easyHandle registered
    rw [finished.easyHandles] at registered
    by_cases same : i = transfer.privateData
    · rw [same, Function.update_self] at registered
      cases registered
    · rw [Function.update_of_ne same] at registered
      obtain ⟨other, held, slot, handle⟩ := sound.registered i easyHandle registered
      refine ⟨other, left.mpr ⟨held, fun equal => same ?_⟩, slot, handle⟩
      rw [← slot, List.inj_on_of_nodup_map sound.handles held running equal]

/-! ## Every run -/

theorem Reachable.sound {pool : Pool} (reached : Reachable pool) : pool.Sound := by
  induction reached with
  | initial => exact initial_sound
  | startDownload request supply _ fresh ran ih =>
      rcases startDownload_spec ih request supply with
        ⟨after, filename, gamename, stream, i, done, -, -, -, started⟩ | ⟨after, done, -, refused⟩
      · cases done.symm.trans ran
        exact started.sound ih fresh
      · cases done.symm.trans ran
        exact refused.sound ih
  | finish transfer responseCode _ running ih =>
      exact (finish_spec ih running responseCode).sound ih running

/-- A start takes a slot exactly if it can, and never one that is in use. -/
structure StartsSafely (request : Request) (supply : Supply) (pool pool' : Pool) (result : Int) :
    Prop where
  keeps : ∀ i, pool.inUse i = true →
    pool'.curlHelper i = pool.curlHelper i ∧ pool'.easyHandles i = pool.easyHandles i
  starts : result = 1 ↔
    pool.activeHandles < maxConcurrentCurlHandles ∧ request.Opens supply
  started : result = 1 → ∃ i, pool.inUse i = false ∧
    pool'.inUse = Function.update pool.inUse i true ∧
      pool'.activeHandles = pool.activeHandles + 1
  refused : result ≠ 1 → result = 0 ∧ pool'.inUse = pool.inUse ∧
    pool'.activeHandles = pool.activeHandles ∧ pool'.multiHandle = pool.multiHandle

theorem startDownload_safe {pool : Pool} (sound : pool.Sound) (request : Request)
    (supply : Supply) : ∃ pool' result,
      pool.startDownload request supply = some (pool', result) ∧
        StartsSafely request supply pool pool' result := by
  rcases startDownload_spec sound request supply with
    ⟨after, filename, gamename, stream, i, done, room, opens, -, started⟩ |
      ⟨after, done, blocked, refused⟩
  · refine ⟨after, 1, done, fun j taken => ?_, iff_of_true rfl ⟨room, opens⟩,
      fun _ => ⟨i, started.free, started.inUse, started.activeHandles⟩,
      fun other => absurd rfl other⟩
    rw [started.helper, started.easyHandles, Function.update_of_ne (started.elsewhere taken),
      Function.update_of_ne (started.elsewhere taken)]
    exact ⟨rfl, rfl⟩
  · refine ⟨after, 0, done, fun j taken => ⟨refused.helper j taken, by rw [refused.easyHandles]⟩,
      iff_of_false (by decide) blocked, fun other => absurd other (by decide), fun _ => ?_⟩
    exact ⟨rfl, refused.inUse, refused.activeHandles, refused.multiHandle⟩

/--
In every pool that starts and completions lead to, the counter is the number of
the slots in use. A start takes a free slot exactly below the limit and if its
file opens; a completion frees the slot of its download.
-/
theorem pool_invariant (pool : Pool) (reached : pool.Reachable) :
    (pool.activeHandles = occupied pool.inUse ∧ 0 ≤ pool.activeHandles ∧
      pool.activeHandles ≤ maxConcurrentCurlHandles) ∧
    (∀ request supply, ∃ pool' result,
      pool.startDownload request supply = some (pool', result) ∧
        StartsSafely request supply pool pool' result) ∧
    ∀ transfer ∈ pool.multiHandle, ∀ responseCode,
      pool.inUse transfer.privateData = true ∧
        (∀ other ∈ pool.multiHandle, other.privateData = transfer.privateData → other = transfer) ∧
        Finished transfer pool (pool.finish transfer responseCode).1 := by
  have sound := reached.sound
  refine ⟨⟨sound.counted, sound.within⟩, startDownload_safe sound, ?_⟩
  intro transfer running responseCode
  exact ⟨(sound.running transfer running).1, fun other held => sound.transfer_inj running held,
    finish_spec sound running responseCode⟩

end Pool

def unrealRequest : Request :=
  ⟨some (ascii "http://10.0.0.1/unreal"), some (ascii "unreal.txt"), some (ascii "unreal")⟩

def firstSlot : Slot :=
  ⟨0, by decide⟩

/-- The pool in which the first slot has the download of the request. -/
def unrealPool : Pool :=
  (Pool.initial.fill (ascii "http://10.0.0.1/unreal") (ascii "unreal.txt") (ascii "unreal")
    ⟨some 1, 1⟩ firstSlot).1

theorem unrealPool_reachable : unrealPool.Reachable :=
  .startDownload unrealRequest ⟨some 1, 1⟩ .initial (fun _ member => by cases member) rfl

theorem pool_invariant_unreal :
    unrealPool.activeHandles = occupied unrealPool.inUse ∧
      unrealPool.inUse firstSlot = true :=
  ⟨(Pool.pool_invariant unrealPool unrealPool_reachable).1.1, rfl⟩

end GSMaster.Downloads
