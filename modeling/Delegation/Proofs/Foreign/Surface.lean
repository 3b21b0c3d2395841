import Delegation.Proofs.Process.Events
import Delegation.Proofs.Text.Utf8
import Mathlib.Data.List.TakeWhile
/-!
# Keys and names on the foreign surface

A foreign host has three ways to a runner: bytes of a given length, a text that ends in a zero byte,
and the bytes of a text that the program gave to it.  All of them lead to the same key of the cache of
the process, and what they do is what the cache does for that key (`Foreign.surface_agrees`).

A text ends at its first zero byte.  So a buffer is cut there before it is read, and a text that holds
a zero character cannot be given to a foreign host at all; every other text comes back as it was
(`Foreign.text?_of_textBytes?`).
-/

namespace Delegation.Foreign

variable {σ ρ : Type}

/-! ### Buffers of bytes -/

lemma bytes?_append (key behind : List UInt8) :
    bytes? (some (key ++ behind)) key.length = some key := by
  simp [bytes?]

lemma contains_append (key behind : List UInt8) (w : World σ ρ) :
    contains (some (key ++ behind)) key.length w = (w.caches .global).contains ⟨key⟩ := by
  rw [contains, bytes?_append]

lemma remove_append (key behind : List UInt8) (w : World σ ρ) :
    remove (some (key ++ behind)) key.length w = w.removeKey .global ⟨key⟩ := by
  rw [remove, bytes?_append]

lemma remove_self (key : List UInt8) (w : World σ ρ) :
    remove (some key) key.length w = w.removeKey .global ⟨key⟩ := by
  simpa using remove_append key [] w

/-! ### Texts that end in a zero byte -/

/-- What stands behind the first zero byte does not matter. -/
lemma beforeZero_append (bytes behind : List UInt8) :
    beforeZero (bytes ++ 0 :: behind) = bytes.takeWhile (· ≠ 0) := by
  induction bytes with
  | nil => rfl
  | cons b bytes ih =>
    rw [beforeZero] at ih ⊢
    rw [List.cons_append, List.takeWhile_cons, List.takeWhile_cons, ih]

lemma text?_eq_some_iff {bytes behind : List UInt8} {t : String} :
    text? (some (bytes ++ 0 :: behind)) = some t ↔ bytes.takeWhile (· ≠ 0) = Utf8.encode t := by
  rw [text?, Option.bind_some, beforeZero_append, Utf8.decode?_eq_some_iff]

/-- **Exactly the well-formed bytes give a text.** -/
lemma exists_text?_iff (bytes behind : List UInt8) :
    (∃ t, text? (some (bytes ++ 0 :: behind)) = some t) ↔
      Utf8.WellFormed (bytes.takeWhile (· ≠ 0)) := by
  rw [← Utf8.exists_decode?_iff, text?, Option.bind_some, beforeZero_append]

lemma removeName_of_text {buffer : Option (List UInt8)} {t : String} (h : text? buffer = some t)
    (w : World σ ρ) : removeName buffer w = w.removeKey .global (.name t) := by
  rw [removeName, h]

lemma removeName_of_no_text {buffer : Option (List UInt8)} (h : text? buffer = none)
    (w : World σ ρ) : removeName buffer w = (false, w) := by
  rw [removeName, h]

/-- **A name evicts what its bytes evict.** -/
lemma removeName_of_wellFormed {bytes : List UInt8}
    (h : Utf8.WellFormed (bytes.takeWhile (· ≠ 0))) (behind : List UInt8) (w : World σ ρ) :
    removeName (some (bytes ++ 0 :: behind)) w =
      remove (some (bytes.takeWhile (· ≠ 0))) (bytes.takeWhile (· ≠ 0)).length w := by
  obtain ⟨t, ht⟩ := (exists_text?_iff bytes behind).mpr h
  rw [removeName_of_text ht, remove_self, text?_eq_some_iff.mp ht, Key.name]

lemma removeName_of_malformed {bytes : List UInt8}
    (h : ¬ Utf8.WellFormed (bytes.takeWhile (· ≠ 0))) (behind : List UInt8) (w : World σ ρ) :
    removeName (some (bytes ++ 0 :: behind)) w = (false, w) := by
  refine removeName_of_no_text (Option.eq_none_iff_forall_ne_some.mpr fun t ht => ?_) w
  exact h ((exists_text?_iff bytes behind).mp ⟨t, ht⟩)

/-! ### Texts of the program -/

lemma textBytes?_eq_none_iff {s : String} : textBytes? s = none ↔ '\x00' ∈ s.toList := by
  rw [← Utf8.zero_mem_encode_iff, textBytes?]
  simp

lemma textBytes?_of_not_mem {s : String} (h : '\x00' ∉ s.toList) :
    textBytes? s = some (Utf8.encode s) := by
  rw [← Utf8.zero_mem_encode_iff] at h
  simp [textBytes?, h]

/-- **Texts come back as they were**, in a buffer that ends in a zero byte. -/
lemma text?_of_textBytes? {s : String} {bytes : List UInt8} (h : textBytes? s = some bytes)
    (behind : List UInt8) : text? (some (bytes ++ 0 :: behind)) = some s := by
  have hzero : '\x00' ∉ s.toList := by
    rw [← textBytes?_eq_none_iff, h]
    simp
  rw [textBytes?_of_not_mem hzero, Option.some.injEq] at h
  rw [text?_eq_some_iff, ← h]
  -- no byte of the text is zero, so nothing of it is cut off
  refine List.takeWhile_eq_self_iff.mpr fun b hb => decide_eq_true ?_
  rintro rfl
  exact hzero ((Utf8.zero_mem_encode_iff s).mp hb)

/-! ### The caches -/

/-- No call reaches another cache than that of the process. -/
lemma Call.caches_perform (call : Call) (w : World σ ρ) {c : CacheId} (h : c ≠ .global) :
    (call.perform w).caches c = w.caches c := by
  cases call with
  | remove buffer length =>
    simp only [perform, Foreign.remove]
    split
    · exact setAt_of_ne _ _ h
    · rfl
  | removeName buffer =>
    simp only [perform, Foreign.removeName]
    split
    · exact setAt_of_ne _ _ h
    · rfl
  | clear => exact setAt_of_ne _ _ h
  | _ => rfl

/-- A runner that was preloaded is found under its name, and gone after it is evicted by that
name. -/
lemma evict_preloaded {η : Type} {ctx : Context σ ρ η} (hcache : ctx.cache = .global) {s : Symbol}
    {build : σ → Exit RunError ρ × σ} {w : World σ ρ} {r : ρ}
    (hpreload : (ctx.preload s build w).1 = .returned r) {buffer : Option (List UInt8)}
    (hname : text? buffer = some s.qualified) :
    let w' := (ctx.preload s build w).2
    (w'.caches .global).get? (.name s.qualified) = some r ∧ (removeName buffer w').1 = true ∧
      ((removeName buffer w').2.caches .global).get? (.name s.qualified) = none := by
  intro w'
  have hentry : (w'.caches .global).get? (.name s.qualified) = some r := by
    rw [← hcache]
    exact World.get?_of_getOrInsert hpreload
  refine ⟨hentry, ?_, ?_⟩
  · rw [removeName_of_text hname]
    exact Cache.contains_iff.mpr ⟨r, hentry⟩
  · rw [removeName_of_text hname, World.removeKey, World.setCache_caches, Cache.get?_erase,
      if_pos rfl]

/-- What the surface promises in a state of the process. -/
structure Agrees (w : World σ ρ) : Prop where
  /-- Bytes of a length are the key with these bytes, zero bytes included. -/
  contains_key : ∀ key behind : List UInt8,
    contains (some (key ++ behind)) key.length w = (w.caches .global).contains ⟨key⟩
  /-- So they are when a runner is evicted. -/
  remove_key : ∀ key behind : List UInt8,
    remove (some (key ++ behind)) key.length w = w.removeKey .global ⟨key⟩
  /-- A buffer gives a text exactly if the bytes before its first zero byte are well-formed. -/
  text_iff : ∀ bytes behind : List UInt8,
    (∃ t, text? (some (bytes ++ 0 :: behind)) = some t) ↔
      Utf8.WellFormed (bytes.takeWhile (· ≠ 0))
  /-- It gives the text that is written with these bytes. -/
  text_bytes : ∀ (bytes behind : List UInt8) (t : String),
    text? (some (bytes ++ 0 :: behind)) = some t → Utf8.encode t = bytes.takeWhile (· ≠ 0)
  /-- Then a name evicts what its bytes evict. -/
  remove_name : ∀ bytes behind : List UInt8, Utf8.WellFormed (bytes.takeWhile (· ≠ 0)) →
    removeName (some (bytes ++ 0 :: behind)) w =
      remove (some (bytes.takeWhile (· ≠ 0))) (bytes.takeWhile (· ≠ 0)).length w
  /-- Otherwise it evicts nothing. -/
  keep_malformed : ∀ bytes behind : List UInt8, ¬ Utf8.WellFormed (bytes.takeWhile (· ≠ 0)) →
    removeName (some (bytes ++ 0 :: behind)) w = (false, w)
  /-- A text has bytes for a foreign host exactly if it holds no zero character. -/
  no_bytes_iff : ∀ s : String, textBytes? s = none ↔ '\x00' ∈ s.toList
  /-- It comes back from these bytes. -/
  text_back : ∀ (s : String) (bytes behind : List UInt8), textBytes? s = some bytes →
    text? (some (bytes ++ 0 :: behind)) = some s
  /-- A runner that is preloaded under a name without zero characters can be evicted by it. -/
  evict : ∀ (η : Type) (ctx : Context σ ρ η) (s : Symbol) (build : σ → Exit RunError ρ × σ)
    (r : ρ), ctx.cache = .global → '\x00' ∉ s.qualified.toList →
    (ctx.preload s build w).1 = .returned r → ∃ bytes, textBytes? s.qualified = some bytes ∧
      let w' := (ctx.preload s build w).2
      (w'.caches .global).get? (.name s.qualified) = some r ∧
      (removeName (some (bytes ++ [0])) w').1 = true ∧
      ((removeName (some (bytes ++ [0])) w').2.caches .global).get? (.name s.qualified) = none
  /-- Nothing is found where there is no buffer, and nothing is evicted. -/
  no_buffer : ∀ length, contains none length w = false ∧ remove none length w = (false, w) ∧
    removeName none w = (false, w)
  /-- Calls change no other cache. -/
  other_caches : ∀ (call : Call) (c : CacheId), c ≠ .global →
    (call.perform w).caches c = w.caches c

/-- **The surface agrees with the cache on every key**, in every state of the process. -/
theorem surface_agrees (w : World σ ρ) : Agrees w where
  contains_key key behind := contains_append key behind w
  remove_key key behind := remove_append key behind w
  text_iff bytes behind := exists_text?_iff bytes behind
  text_bytes bytes behind t ht := (text?_eq_some_iff.mp ht).symm
  remove_name bytes behind h := removeName_of_wellFormed h behind w
  keep_malformed bytes behind h := removeName_of_malformed h behind w
  no_bytes_iff s := textBytes?_eq_none_iff
  text_back s bytes behind h := text?_of_textBytes? h behind
  evict η ctx s build r hcache hzero hpreload := by
    have hbytes := textBytes?_of_not_mem hzero
    exact ⟨_, hbytes, evict_preloaded hcache hpreload (text?_of_textBytes? hbytes [])⟩
  no_buffer length := ⟨rfl, rfl, rfl⟩
  other_caches call c h := call.caches_perform w h

end Delegation.Foreign
