import Patina.Component.InitState

/-!
# Borrows taken by `get_param`

The safety contract of `unsafe trait Param` asks `init_state` to record every access
`get_param` uses and to refuse conflicting ones. `Bound.footprint` lists the borrows a bound
parameter's item may keep alive: a `Ref` per `Config` leaf, a `RefMut` per `ConfigMut` leaf,
the deferred queue per `Commands` leaf. `Compatible` says that borrows can be held together.

Results:
1. `Param.initState_allows`: `init_state` records the footprint of the state it returns, and
   keeps the recorded accesses compatible.
2. `Bound.getParam_sound`: while the held borrows and the footprint are compatible,
   `get_param` (the `validate` calls of its `Option` members included) never fails a borrow
   check, and it takes a sublist of the footprint.
3. `getParam_borrows_in_footprint`: for a parameter type whose `init_state` completed from an
   empty record, and any storage, `try_validate` and `get_param` never fail a borrow check, and
   the borrows the item holds are recorded accesses and compatible.
-/

namespace Patina

/-- A panic of a `RefCell` borrow check. -/
def Panic.IsBorrow : Panic → Prop
  | .alreadyBorrowed _ | .alreadyMutablyBorrowed _ => True
  | _ => False

/-- Borrows that can be held together: an exclusive borrow of a slot is its only borrow, and
the deferred queue is taken at most once. -/
def Compatible (borrows : List Borrow) : Prop :=
  (∀ id, .exclusive id ∈ borrows → borrows.count (.exclusive id) = 1 ∧ .shared id ∉ borrows) ∧
    borrows.count .queue ≤ 1

/-- The borrow the item of a leaf keeps alive, if any. -/
def Leaf.footprint : (l : Leaf) → l.State → List Borrow
  | .config _, id => [.shared id]
  | .configMut _, id => [.exclusive id]
  | .commands, _ => [.queue]
  | _, _ => []

/-- The borrows the item of a bound parameter may keep alive. -/
def Bound.footprint : Bound → List Borrow
  | .leaf l state => l.footprint state
  | .option p => p.footprint
  | .tuple ps => footprints ps
where footprints : List Bound → List Borrow
  | [] => []
  | p :: ps => p.footprint ++ footprints ps

/-- The borrows an access record allows, one per recorded access. -/
def Access.allows (a : Access) : List Borrow :=
  a.configReads.map .shared ++ a.configWrites.map .exclusive ++ (if a.usesDeferred then [.queue] else [])

/-! ## Compatible borrows -/

section Compatible

variable {l l' : List Borrow} {id : Nat}

theorem Compatible.of_count_le (compatible : Compatible l) (fewer : ∀ b, l'.count b ≤ l.count b) :
    Compatible l' := by
  have mem : ∀ {b}, b ∈ l' → b ∈ l := fun {b} member =>
    List.count_pos_iff.mp (lt_of_lt_of_le (List.count_pos_iff.mpr member) (fewer b))
  refine ⟨fun id held => ?_, le_trans (fewer _) compatible.2⟩
  have ⟨once, unshared⟩ := compatible.1 id (mem held)
  exact ⟨le_antisymm (once ▸ fewer _) (List.count_pos_iff.mpr held), fun shared => unshared (mem shared)⟩

theorem Compatible.sublist (compatible : Compatible l) (sub : l'.Sublist l) : Compatible l' :=
  compatible.of_count_le fun _ => sub.count_le _

theorem Compatible.shared_ok (compatible : Compatible (l ++ [.shared id])) :
    Borrow.exclusive id ∉ l := fun held =>
  (compatible.1 id (by simp [held])).2 (by simp)

theorem Compatible.exclusive_ok (compatible : Compatible (l ++ [.exclusive id])) :
    Borrow.exclusive id ∉ l ∧ Borrow.shared id ∉ l := by
  have ⟨once, unshared⟩ := compatible.1 id (by simp)
  refine ⟨fun held => ?_, fun shared => unshared (by simp [shared])⟩
  have := List.count_pos_iff.mpr held
  simp only [List.count_append, List.count_singleton_self] at once
  omega

end Compatible

section Append

variable {l : List Borrow} {id : Nat}

theorem Compatible.append_shared (compatible : Compatible l) (unwritten : .exclusive id ∉ l) :
    Compatible (l ++ [.shared id]) := by
  refine ⟨fun id' held => ?_, by simpa using compatible.2⟩
  have inL : Borrow.exclusive id' ∈ l := by simpa using held
  have ⟨once, unshared⟩ := compatible.1 id' inL
  refine ⟨by simpa using once, fun shared => ?_⟩
  rcases List.mem_append.mp shared with shared | same
  · exact unshared shared
  · cases List.mem_singleton.mp same
    exact unwritten inL

theorem Compatible.append_exclusive (compatible : Compatible l) (unwritten : .exclusive id ∉ l)
    (unread : .shared id ∉ l) : Compatible (l ++ [.exclusive id]) := by
  refine ⟨fun id' held => ?_, by simpa using compatible.2⟩
  by_cases same : id' = id
  · subst same
    simp [unread, List.count_eq_zero_of_not_mem unwritten]
  · have inL : Borrow.exclusive id' ∈ l := by simpa [same] using held
    have ⟨once, unshared⟩ := compatible.1 id' inL
    exact ⟨by simpa [same] using once, by simpa using unshared⟩

theorem Compatible.append_queue (compatible : Compatible l) (untaken : .queue ∉ l) :
    Compatible (l ++ [.queue]) := by
  refine ⟨fun id' held => ?_, by simp [List.count_eq_zero_of_not_mem untaken]⟩
  have ⟨once, unshared⟩ := compatible.1 id' (by simpa using held)
  exact ⟨by simpa using once, by simpa using unshared⟩

end Append

@[simp] theorem Access.exclusive_mem_allows (a : Access) (id : Nat) :
    .exclusive id ∈ a.allows ↔ id ∈ a.configWrites := by
  simp [Access.allows]

@[simp] theorem Access.shared_mem_allows (a : Access) (id : Nat) :
    .shared id ∈ a.allows ↔ id ∈ a.configReads := by
  simp [Access.allows]

@[simp] theorem Access.queue_mem_allows (a : Access) : .queue ∈ a.allows ↔ a.usesDeferred = true := by
  simp [Access.allows]

/-! ## What `init_state` records -/

/-- The registration `f` records the footprint `fp` of what it returns, one access per
borrow, and keeps the recorded accesses compatible. -/
def Allows {α : Type} (f : Storage → MetaData → Except Conflict (α × Storage × MetaData))
    (fp : α → List Borrow) : Prop :=
  Guarantees f fun x before after =>
    (Compatible before.2.access.allows → Compatible after.2.access.allows) ∧
    ∀ b, after.2.access.allows.count b = before.2.access.allows.count b + (fp x).count b

theorem Compatible.of_count_eq {l l' : List Borrow} (compatible : Compatible l)
    (same : ∀ b, l'.count b = l.count b) : Compatible l' :=
  compatible.of_count_le fun b => (same b).le

theorem Access.count_allows_addConfigRead (a : Access) (id : Nat) (b : Borrow) :
    (a.addConfigRead id).allows.count b = a.allows.count b + [Borrow.shared id].count b := by
  simp only [Access.allows, Access.addConfigRead, List.map_append, List.count_append,
    List.map_cons, List.map_nil]
  omega

theorem Access.count_allows_addConfigWrite (a : Access) (id : Nat) (b : Borrow) :
    (a.addConfigWrite id).allows.count b = a.allows.count b + [Borrow.exclusive id].count b := by
  simp only [Access.allows, Access.addConfigWrite, List.map_append, List.count_append,
    List.map_cons, List.map_nil]
  omega

theorem Access.count_allows_deferred {a : Access} (unused : a.usesDeferred = false) (b : Borrow) :
    a.deferred.allows.count b = a.allows.count b + [Borrow.queue].count b := by
  simp only [Access.allows, Access.deferred, unused, List.count_append, if_true, if_false,
    Bool.false_eq_true, List.count_nil]
  omega

/-- A step that records the accesses `fp` allows their borrows, and keeps the record compatible
when they can be taken together with the earlier ones. -/
theorem allows_of_counts {a a' : Access} {fp : List Borrow}
    (counts : ∀ b, a'.allows.count b = a.allows.count b + fp.count b)
    (keeps : Compatible a.allows → Compatible (a.allows ++ fp)) :
    (Compatible a.allows → Compatible a'.allows) ∧
      ∀ b, a'.allows.count b = a.allows.count b + fp.count b :=
  ⟨fun compatible => (keeps compatible).of_count_eq fun b => by simp [counts], counts⟩

theorem Leaf.initState_allows : ∀ l : Leaf, Allows l.initState l.footprint
  | .config t => by
    intro storage md x storage' md' result
    rw [Leaf.initState_config] at result
    split_ifs at result with all written
    cases result
    exact allows_of_counts (Access.count_allows_addConfigRead _ _)
      (·.append_shared (by simpa [Access.hasConfigWrite] using written))
  | .configMut t => by
    intro storage md x storage' md' result
    rw [Leaf.initState_configMut] at result
    split_ifs at result with all reads written read
    cases result
    exact allows_of_counts (Access.count_allows_addConfigWrite _ _)
      (·.append_exclusive (by simpa [Access.hasConfigWrite] using written)
        (by simpa [Access.hasConfigRead] using read))
  | .commands => by
    intro storage md x storage' md' result
    rw [Leaf.initState_commands] at result
    split_ifs at result with queued
    cases result
    exact allows_of_counts (Access.count_allows_deferred (by simpa [Access.hasDeferred] using queued))
      (·.append_queue (by simpa [Access.hasDeferred] using queued))
  | .service t => by
    intro storage md x storage' md' result
    rw [Leaf.initState_service] at result
    cases result
    exact ⟨id, by simp [Leaf.footprint]⟩
  | .standardBootServices | .standardRuntimeServices => by
    intro storage md x storage' md' result
    cases result
    exact ⟨id, by simp [Leaf.footprint]⟩

/-- Registering one parameter after another allows both footprints. -/
theorem Allows.seq {α β γ : Type} {fp : α → List Borrow} {fp' : β → List Borrow}
    {f : Storage → MetaData → Except Conflict (α × Storage × MetaData)}
    {g : Storage → MetaData → Except Conflict (β × Storage × MetaData)}
    (first : Allows f fp) (second : Allows g fp') (h : α → β → γ) {fpr : γ → List Borrow}
    (split : ∀ x y, fpr (h x y) = fp x ++ fp' y) :
    Allows (fun storage md => do
      let (x, storage, md) ← f storage md
      let (y, storage, md) ← g storage md
      return (h x y, storage, md)) fpr :=
  Guarantees.seq first second h fun x y _ _ _ ⟨keeps₁, counts₁⟩ ⟨keeps₂, counts₂⟩ =>
    ⟨keeps₂ ∘ keeps₁, fun b => by rw [counts₂, counts₁, split, List.count_append]; omega⟩

theorem Param.initState_allows : ∀ p : Param, Allows p.initState Bound.footprint
  | .leaf l => Guarantees.map l.initState_allows _ fun _ _ _ => id
  | .option p => Guarantees.map p.initState_allows _ fun _ _ _ => id
  | .tuple ps => Guarantees.map (initStates_allows ps) _ fun _ _ _ => id
where initStates_allows : ∀ ps : List Param,
    Allows (Param.initState.initStates ps) Bound.footprint.footprints
  | [] => Guarantees.pure [] fun _ => ⟨id, by simp [Bound.footprint.footprints]⟩
  | p :: ps => (p.initState_allows).seq (initStates_allows ps) List.cons fun _ _ => rfl

/-! ## What `get_param` takes -/

theorem Storage.getRawConfig_not_borrow {s : Storage} {live : List Borrow} {id : Nat} {e : Panic}
    (free : .exclusive id ∉ live) (failed : s.getRawConfig live id = .error e) : ¬ e.IsBorrow := by
  unfold Storage.getRawConfig at failed
  split at failed
  · cases failed; simp [Panic.IsBorrow]
  · simp [free] at failed

theorem Storage.getRawConfigMut_not_borrow {s : Storage} {live : List Borrow} {id : Nat} {e : Panic}
    (free : .exclusive id ∉ live ∧ .shared id ∉ live) (failed : s.getRawConfigMut live id = .error e) :
    ¬ e.IsBorrow := by
  unfold Storage.getRawConfigMut at failed
  split at failed
  · cases failed; simp [Panic.IsBorrow]
  · simp [free] at failed

theorem Bound.validate_not_borrow {b : Bound} {storage : Storage} {live : List Borrow}
    (compatible : Compatible (live ++ b.footprint)) {e : Panic}
    (failed : b.validate storage live = .error e) : ¬ e.IsBorrow := by
  match b with
  | .leaf (.config _) id | .leaf (.configMut _) id =>
    rcases raw : storage.getRawConfig live id with e' | _ <;>
      simp only [Bound.validate, raw, except_error_bind, except_ok_bind, except_pure] at failed <;>
      cases failed
    refine Storage.getRawConfig_not_borrow ?_ raw
    first
    | exact Compatible.shared_ok compatible
    | exact (Compatible.exclusive_ok compatible).1
  | .leaf (.service _) _ | .leaf .commands _ | .leaf .standardBootServices _
  | .leaf .standardRuntimeServices _ | .option _ | .tuple _ => cases failed

theorem Leaf.footprint_compatible (l : Leaf) (state : l.State) : Compatible (l.footprint state) := by
  cases l <;> simp [Compatible, Leaf.footprint]

/-- With no borrow held, `validate` fails no borrow check. -/
theorem Bound.validate_unheld (b : Bound) (storage : Storage) {e : Panic}
    (failed : b.validate storage [] = .error e) : ¬ e.IsBorrow :=
  match b with
  | .leaf l state => validate_not_borrow (by simpa using l.footprint_compatible state) failed
  | .option _ | .tuple _ => by cases failed

theorem Bound.tryValidate_not_borrow (b : Bound) (storage : Storage) {e : Panic}
    (failed : b.tryValidate storage = .error e) : ¬ e.IsBorrow := by
  match b with
  | .tuple ms => exact members ms failed
  | .leaf l state =>
    rcases valid : (Bound.leaf l state).validate storage [] with e' | _ <;>
      simp only [Bound.tryValidate, valid, except_error_bind, except_ok_bind, except_pure] at failed <;>
      cases failed
    exact Bound.validate_unheld _ storage valid
  | .option _ => cases failed
where members : ∀ ms : List Bound, Bound.tryValidate.tryValidateMembers storage ms = .error e →
    ¬ e.IsBorrow
  | [], failed => by cases failed
  | m :: ms, failed => by
    rcases valid : m.validate storage [] with e' | _ | _ <;>
      simp only [Bound.tryValidate.tryValidateMembers, valid, except_error_bind, except_ok_bind,
        except_pure, if_true, if_false, Bool.false_eq_true] at failed
    · cases failed
      exact m.validate_unheld storage valid
    · cases failed
    · exact members ms failed

/-- A result of a call of `get_param` made with the borrows `live` held: it failed no borrow
check, or it holds `live` and some of the borrows `fp`, in order. -/
def Within {α : Type} (live fp : List Borrow) : Except Panic (α × List Borrow) → Prop
  | .error e => ¬ e.IsBorrow
  | .ok (_, live') => ∃ taken, live' = live ++ taken ∧ taken.Sublist fp

section Within

variable {α β : Type} {live fp fp' : List Borrow}

theorem Within.none (x : α) : Within live fp (.ok (x, live)) := ⟨[], by simp, List.nil_sublist _⟩

theorem Within.all (x : α) : Within live fp (.ok (x, live ++ fp)) := ⟨fp, rfl, .refl _⟩

theorem Within.map {r : Except Panic (α × List Borrow)} (within : Within live fp r) (g : α → β) :
    Within live fp (r >>= fun got => pure (g got.1, got.2)) := by
  rcases r with e | ⟨x, held⟩ <;> exact within

/-- Two calls in sequence, the second made with the borrows the first returned. -/
theorem Within.bind {r : Except Panic (α × List Borrow)}
    {k : α → List Borrow → Except Panic (β × List Borrow)} (first : Within live fp r)
    (second : ∀ x taken, taken.Sublist fp → Within (live ++ taken) fp' (k x (live ++ taken))) :
    Within live (fp ++ fp') (r >>= fun got => k got.1 got.2) := by
  rcases r with e | ⟨x, held⟩
  · exact first
  obtain ⟨taken, rfl, sub⟩ := first
  have rest := second x taken sub
  rcases result : k x (live ++ taken) with e | ⟨y, held'⟩ <;>
    simp only [result, Within, except_ok_bind] at rest ⊢
  · exact rest
  obtain ⟨taken', rfl, sub'⟩ := rest
  exact ⟨taken ++ taken', by simp, sub.append sub'⟩

end Within

theorem Bound.getParam_sound : ∀ (b : Bound) (storage : Storage) (live : List Borrow),
    Compatible (live ++ b.footprint) → Within live b.footprint (b.getParam storage live)
  | .leaf (.config _) id, storage, live, compatible => by
    rcases raw : storage.getRawConfig live id with e | _ <;>
      simp only [Bound.getParam, raw, except_error_bind, except_ok_bind, except_pure]
    · exact Storage.getRawConfig_not_borrow (Compatible.shared_ok compatible) raw
    · exact Within.all _
  | .leaf (.configMut _) id, storage, live, compatible => by
    rcases raw : storage.getRawConfigMut live id with e | _ <;>
      simp only [Bound.getParam, raw, except_error_bind, except_ok_bind, except_pure]
    · exact Storage.getRawConfigMut_not_borrow (Compatible.exclusive_ok compatible) raw
    · exact Within.all _
  | .leaf (.service _) id, storage, live, _ => by
    simp only [Bound.getParam]
    split
    · exact Within.none _
    · simp [Within, Panic.IsBorrow]
  | .leaf .commands _, _, _, _ => Within.all _
  | .leaf .standardBootServices _, _, _, _ => Within.none _
  | .leaf .standardRuntimeServices _, _, _, _ => Within.none _
  | .option p, storage, live, compatible => by
    rcases valid : p.validate storage live with e | _ | _ <;>
      simp only [Bound.getParam, valid, except_error_bind, except_ok_bind, if_false, if_true,
        Bool.false_eq_true]
    · exact Bound.validate_not_borrow (b := p) compatible valid
    · exact Within.none _
    · exact (p.getParam_sound storage live compatible).map (fun item => Item.option (some item))
  | .tuple ps, storage, live, compatible => by
    simp only [Bound.getParam]
    exact (getParams_sound ps storage live compatible).map Item.tuple
where getParams_sound : ∀ (ps : List Bound) (storage : Storage) (live : List Borrow),
    Compatible (live ++ Bound.footprint.footprints ps) →
      Within live (Bound.footprint.footprints ps) (Bound.getParam.getParams ps storage live)
  | [], _, _, _ => Within.none _
  | p :: ps, storage, live, compatible =>
    (p.getParam_sound storage live
      (compatible.sublist ((List.sublist_append_left _ _).append_left live))).bind
      (k := fun item held => Bound.getParam.getParams ps storage held >>= fun got =>
        pure (item :: got.1, got.2))
      fun item taken sub => (getParams_sound ps storage (live ++ taken) (compatible.sublist
        (by rw [List.append_assoc]; exact (sub.append (.refl _)).append_left live))).map (item :: ·)

@[simp] theorem Access.allows_empty : Access.empty.allows = [] := rfl

/-- From an empty record, `init_state` records exactly the footprint of the state it returns,
and that footprint is compatible. -/
theorem Param.initState_footprint {p : Param} {storage storage' : Storage} {name : String}
    {b : Bound} {md : MetaData}
    (initialized : p.initState storage (MetaData.new name) = .ok (b, storage', md)) :
    Compatible b.footprint ∧ ∀ x, b.footprint.count x = md.access.allows.count x := by
  have ⟨keeps, counts⟩ := p.initState_allows initialized
  have recorded : ∀ x, b.footprint.count x = md.access.allows.count x := fun x => by
    simpa [MetaData.new] using (counts x).symm
  exact ⟨(keeps (by simp [MetaData.new, Compatible])).of_count_eq recorded, recorded⟩

theorem getParam_borrows_in_footprint (p : Param) (storage : Storage) (name : String) {b : Bound}
    {storage' : Storage} {md : MetaData}
    (initialized : p.initState storage (MetaData.new name) = .ok (b, storage', md))
    (current : Storage) :
    (∀ e, b.tryValidate current = .error e → ¬ e.IsBorrow) ∧
    (∀ e, b.getParam current [] = .error e → ¬ e.IsBorrow) ∧
    ∀ item held, b.getParam current [] = .ok (item, held) →
      (∀ x, held.count x ≤ md.access.allows.count x) ∧ Compatible held := by
  have ⟨compatible, recorded⟩ := Param.initState_footprint initialized
  have sound := b.getParam_sound current [] (by simpa using compatible)
  refine ⟨fun _ => b.tryValidate_not_borrow current, fun e failed => by simpa [failed, Within] using sound,
    fun item held got => ?_⟩
  rw [got] at sound
  obtain ⟨taken, rfl, sub⟩ := sound
  exact ⟨fun x => (sub.count_le x).trans (recorded x).le, compatible.sublist (by simpa using sub)⟩

/-- A component taking a config, an optional mutable config of another type, and the command
queue. -/
def readerWriter : Param :=
  .tuple [.leaf (.config (.named 0)), .option (.leaf (.configMut (.named 1))), .leaf .commands]

/-- The parameter state `init_state` gives `readerWriter` in a new storage. -/
def readerWriterState : Bound :=
  .tuple [.leaf (.config (.named 0)) 0, .option (.leaf (.configMut (.named 1)) 1), .leaf .commands ()]

/-- The storage a reader of `A` and a writer of `B` leave on an empty one: `A`'s slot locked,
`B`'s unlocked by the `ConfigMut<B>`. -/
def readerWriterStorage : Storage :=
  ⟨[⟨.named 0, ⟨true, ⟨.named 0, 0⟩⟩⟩, ⟨.named 1, ⟨false, ⟨.named 1, 0⟩⟩⟩],
    [], false, false⟩

theorem getParam_borrows_in_footprint_readerWriter :
    readerWriter.initState Storage.new (MetaData.new "c") =
      .ok (readerWriterState, readerWriterStorage, ⟨"c", ⟨[0], [1], false, false, true⟩, none⟩) ∧
    readerWriterState.getParam readerWriterStorage [] =
      .ok (.tuple [.config 0 ⟨true, ⟨.named 0, 0⟩⟩,
          .option (some (.configMut 1 ⟨false, ⟨.named 1, 0⟩⟩)), .commands],
        [.shared 0, .exclusive 1, .queue]) ∧
    ∀ item held, readerWriterState.getParam readerWriterStorage [] = .ok (item, held) →
      (∀ x, held.count x ≤ (Access.allows ⟨[0], [1], false, false, true⟩).count x) ∧ Compatible held :=
  ⟨rfl, rfl, (getParam_borrows_in_footprint readerWriter Storage.new "c" rfl readerWriterStorage).2.2⟩

end Patina
