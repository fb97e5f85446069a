import UserFs.Proofs.Handle.Numbers
import UserFs.Proofs.TreeFs.Responses

/-!
# Handles and inodes are apart

IDs and handles are both numbers, but nothing that is done with the ones is felt by the others:

* **inodes** — a lookup, a forget or a change of size does the same whatever handles there are
  (`SameNodes.perform`), and an open or a release changes the handles only
  (`SameNodes.of_perform`). So the opens and the releases can be left out of a run, and the other
  actions come to the same (`responses_aboutNodes`);
* **handles** — an action opens one handle, or releases one, or leaves the handle table alone
  (`handled_perform`). So a handle that was given out stays what it was opened as until it is
  released (`dirHandle?_performAll`), whatever becomes of the ID that was opened, unless the numbers
  of handles have gone around.

An open that asks for writing is refused, so no handle has such flags (`readsOnly_inUse`).
-/

namespace UserFs.TreeFs

/-! ## Actions about handles -/

/-- Whether an action opens or releases a handle. -/
def Action.isAboutHandles : Action → Bool
  | .query _ _ (.openDir _) | .query _ _ (.releaseDir _ _) => true
  | _ => false

/-- Whether an action releases the handle. -/
def Action.releases (handle : HandleId) : Action → Bool
  | .query _ _ (.releaseDir _ request) => request.handle = handle
  | _ => false

/-- Whether a handle was given out. -/
def Response.isOpened : Response → Bool
  | .opened result => result.isOk
  | _ => false

/-- What is left of a list of actions without those about handles. -/
def aboutNodes (actions : List Action) : List Action :=
  actions.filter fun action => !action.isAboutHandles

/-- What came of the actions that are not about handles. -/
def onNodes {α : Type} (exchanges : List (Action × α)) : List (Action × α) :=
  exchanges.filter fun exchange => !exchange.1.isAboutHandles

/-! ## Other handles -/

/-- The same filesystem with other handles open. -/
def withHandles (fs : TreeFs) (handles : Handle.Table DirHandle) : TreeFs :=
  { fs with handles := handles }

variable {fs after : TreeFs} {action : Action} {response : Response} {handle : HandleId}

theorem lookup_withHandles (fs : TreeFs) (handles : Handle.Table DirHandle) (now : Instant)
    (request : LookupRequest) :
    (fs.withHandles handles).lookup now request =
      ((fs.lookup now request).1, (fs.lookup now request).2.withHandles handles) := by
  have same : (fs.withHandles handles).resolveName request = fs.resolveName request := rfl
  cases resolved : fs.resolveName request with
  | error refusal =>
    rw [lookup_of_error resolved, lookup_of_error (same.trans resolved)]
  | ok pair =>
    rw [lookup_of_ok resolved, lookup_of_ok (same.trans resolved)]
    rfl

theorem resize_withHandles (fs : TreeFs) (handles : Handle.Table DirHandle) (path : String)
    (size : UInt64) :
    (fs.withHandles handles).resize path size =
      ((fs.resize path size).1, (fs.resize path size).2.withHandles handles) := by
  have tree : (fs.withHandles handles).tree = fs.tree := rfl
  unfold resize
  rw [tree]
  cases fs.tree.find? path with
  | none => rfl
  | some key =>
    dsimp only
    cases fs.tree.node? key with
    | none => rfl
    | some node =>
      dsimp only
      split <;> rfl

/-- Whether two filesystems differ in nothing but their handles. -/
def SameNodes (fs other : TreeFs) : Prop := ∃ handles, other = fs.withHandles handles

theorem SameNodes.refl (fs : TreeFs) : fs.SameNodes fs := ⟨fs.handles, rfl⟩

/-- Which handles are open makes no difference to an action that is not about handles. -/
theorem SameNodes.perform {other : TreeFs} (same : fs.SameNodes other)
    (notAbout : action.isAboutHandles = false) :
    (other.perform action).1 = (fs.perform action).1 ∧
      (fs.perform action).2.SameNodes (other.perform action).2 := by
  obtain ⟨handles, rfl⟩ := same
  cases action with
  | resize path size =>
    rw [perform_resize, perform_resize, resize_withHandles]
    exact ⟨rfl, handles, rfl⟩
  | query route context query =>
    cases query with
    | lookup request =>
      rw [perform_lookup, perform_lookup, lookup_withHandles]
      exact ⟨rfl, handles, rfl⟩
    | forget request => exact ⟨rfl, handles, rfl⟩
    | openDir request => cases notAbout
    | releaseDir inode request => cases notAbout

/-- An action about handles makes no difference but to the handles. -/
theorem SameNodes.of_perform {other : TreeFs} (same : fs.SameNodes other)
    (about : action.isAboutHandles = true) : (fs.perform action).2.SameNodes other := by
  obtain ⟨handles, rfl⟩ := same
  cases action with
  | resize path size => cases about
  | query route context query =>
    cases query with
    | lookup request => cases about
    | forget request => cases about
    | openDir request =>
      show (fs.openDir request).2.SameNodes (fs.withHandles handles)
      cases checked : fs.checkOpenDir request with
      | error refusal =>
        rw [openDir_of_error checked]
        exact ⟨handles, rfl⟩
      | ok =>
        rw [openDir_of_ok checked]
        exact ⟨handles, rfl⟩
    | releaseDir inode request => exact ⟨handles, rfl⟩

theorem map_fst_onNodes (fs : TreeFs) (actions : List Action) :
    (onNodes (fs.responses actions)).map Prod.fst = aboutNodes actions := by
  have all : (fs.responses actions).map Prod.fst = actions :=
    Inode.map_fst_transcript perform fs actions
  rw [← congrArg aboutNodes all, aboutNodes, List.filter_map]
  rfl

/-- Without the opens and the releases, the other actions come to the same, and only the handles
are others in the end. -/
theorem responses_aboutNodes (fs : TreeFs) (actions : List Action) :
    fs.responses (aboutNodes actions) = onNodes (fs.responses actions) ∧
      (Inode.performAll perform fs actions).SameNodes
        (Inode.performAll perform fs (aboutNodes actions)) := by
  have run := Inode.transcript_without perform (fun exchange => exchange.1.isAboutHandles)
    SameNodes (fun _ _ _ same about => same.of_perform about)
    (fun _ _ _ same notAbout => same.perform notAbout) (.refl fs) actions
  rw [← map_fst_onNodes fs]
  exact run

/-- Two runs that differ in nothing but opens and releases differ in nothing but these and the
handles. -/
theorem responses_of_aboutNodes (fs : TreeFs) {actions fewer : List Action}
    (same : aboutNodes fewer = aboutNodes actions) :
    onNodes (fs.responses fewer) = onNodes (fs.responses actions) ∧
      (Inode.performAll perform fs fewer).inodes = (Inode.performAll perform fs actions).inodes ∧
      (Inode.performAll perform fs fewer).tree = (Inode.performAll perform fs actions).tree := by
  -- both are as if there were no opens and releases at all
  obtain ⟨seen, _, ends⟩ := fs.responses_aboutNodes actions
  obtain ⟨seenFewer, _, endsFewer⟩ := fs.responses_aboutNodes fewer
  rw [same] at seenFewer endsFewer
  have alike := endsFewer.symm.trans ends
  have inodes := congrArg TreeFs.inodes alike
  have tree := congrArg TreeFs.tree alike
  exact ⟨seenFewer.symm.trans seen, inodes, tree⟩

theorem onNodes_history (fs : TreeFs) (actions : List Action) :
    onNodes (history ⟨fs, .serving⟩ actions) =
      (onNodes (fs.responses actions)).map fun exchange =>
        (exchange.1, exchange.1.shown exchange.2) := by
  rw [history_eq, onNodes, List.filter_map]
  rfl

/-! ## One handle -/

/-- What an action does to the handles. -/
inductive Handled (fs after : TreeFs) : Action → Response → Prop
  /-- The handle table is left alone. -/
  | kept {action : Action} {response : Response} (handles : after.handles = fs.handles)
      (unopened : response.isOpened = false) : Handled fs after action response
  /-- The next handle is given out for a directory that is to be read. -/
  | opened {route : Route} {context : Context} {request : OpenDirRequest}
      (noWrites : request.flags.requestsWrite = false)
      (handles : after.handles = (fs.handles.openWith ⟨request.inode, request.flags⟩).2) :
      Handled fs after (.query route context (.openDir request))
        (.opened (.ok (fs.handles.openWith ⟨request.inode, request.flags⟩).1))
  /-- A handle is given back. -/
  | released {route : Route} {context : Context} {inode : InodeId} {request : ReleaseRequest}
      (handles : after.handles = (fs.handles.release request.handle).2) :
      Handled fs after (.query route context (.releaseDir inode request))
        (.released (fs.handles.release request.handle).1)

theorem handled_perform (fs : TreeFs) (action : Action) :
    Handled fs (fs.perform action).2 action (fs.perform action).1 := by
  cases action with
  | resize path size => exact .kept (handles_resize fs path size) rfl
  | query route context query =>
    cases query with
    | lookup request => exact .kept (handles_lookup fs context.now (route.received request)) rfl
    | forget request => exact .kept rfl rfl
    | openDir request =>
      show Handled fs (fs.openDir request).2 _ (.opened (fs.openDir request).1)
      cases checked : fs.checkOpenDir request with
      | error refusal =>
        rw [openDir_of_error checked]
        exact .kept rfl rfl
      | ok =>
        rw [openDir_of_ok checked]
        exact .opened (requestsWrite_of_checkOpenDir checked) rfl
    | releaseDir inode request => exact .released rfl

/-- No handle that is open asks for writing. -/
def ReadsOnly (fs : TreeFs) : Prop :=
  ∀ handle opened, fs.dirHandle? handle = some opened → opened.flags.requestsWrite = false

namespace Handled

theorem readsOnly (handled : Handled fs after action response) (reads : fs.ReadsOnly) :
    after.ReadsOnly := by
  intro handle opened isOpen
  unfold dirHandle? at isOpen
  cases handled with
  | kept handles =>
    rw [handles] at isOpen
    exact reads handle opened isOpen
  | opened noWrites handles =>
    rw [handles, Handle.Table.get?_openWith] at isOpen
    split at isOpen
    · cases isOpen
      exact noWrites
    · exact reads handle opened isOpen
  | released handles =>
    rw [handles, Handle.Table.get?_release] at isOpen
    split at isOpen
    · cases isOpen
    · exact reads handle opened isOpen

/-- A handle that is neither released nor given out again stays what it was opened as, and every
open brings the counter one nearer to it. -/
theorem dirHandle?_eq_some (handled : Handled fs after action response) {opened : DirHandle}
    (isOpen : fs.dirHandle? handle = some opened) (unreleased : action.releases handle = false)
    (waiting : (if response.isOpened then 1 else 0) ≤ fs.handles.opensUntil handle) :
    after.dirHandle? handle = some opened ∧
      after.handles.opensUntil handle + (if response.isOpened then 1 else 0) =
        fs.handles.opensUntil handle := by
  unfold dirHandle? at isOpen ⊢
  cases handled with
  | kept handles unopened =>
    rw [handles, unopened]
    exact ⟨isOpen, rfl⟩
  | opened noWrites handles =>
    obtain ⟨other, shorter⟩ := Handle.Table.opensUntil_openWith _ waiting
    rw [handles, Handle.Table.get?_openWith, if_neg other]
    exact ⟨isOpen, shorter⟩
  | released handles =>
    have other : handle ≠ _ := fun same => of_decide_eq_false unreleased same.symm
    rw [handles, Handle.Table.get?_release, if_neg other, Handle.Table.opensUntil_release]
    exact ⟨isOpen, rfl⟩

end Handled

/-- A handle that was given out keeps what was opened, and all other numbers come before it does
again. -/
theorem dirHandle?_of_openDir {request : OpenDirRequest}
    (granted : (fs.openDir request).1 = .ok handle) :
    (fs.openDir request).2.dirHandle? handle = some ⟨request.inode, request.flags⟩ ∧
      (fs.openDir request).2.handles.opensUntil handle = UInt64.size - 1 := by
  cases checked : fs.checkOpenDir request with
  | error refusal =>
    rw [openDir_of_error checked] at granted
    cases granted
  | ok =>
    rw [openDir_of_ok checked] at granted ⊢
    cases granted
    constructor
    · exact (Handle.Table.get?_openWith _ _ _).trans (if_pos rfl)
    · exact Handle.Table.opensUntil_openWith_self _ _

/-- As long as a handle is not released and not given out again, it stays what it was opened
as. -/
theorem dirHandle?_performAll {opened : DirHandle} (isOpen : fs.dirHandle? handle = some opened)
    {actions : List Action} (unreleased : ∀ action ∈ actions, action.releases handle = false)
    (few : (fs.responses actions).countP (fun exchange => exchange.2.isOpened) ≤
      fs.handles.opensUntil handle) :
    (Inode.performAll perform fs actions).dirHandle? handle = some opened := by
  induction actions generalizing fs with
  | nil => exact isOpen
  | cons action rest ih =>
    obtain ⟨here, later⟩ := List.forall_mem_cons.mp unreleased
    rw [responses_cons, List.countP_cons] at few
    dsimp only at few
    obtain ⟨kept, shorter⟩ :=
      (handled_perform fs action).dirHandle?_eq_some isOpen here (by omega)
    apply ih kept later
    omega

/-! ## Every run -/

theorem readsOnly_inUse (additions : List Addition) (policy : CachePolicy)
    (config : Inode.TableConfig) (hash : NodeKey → UInt64) (context : Context)
    (repliedAt : Instant) (actions : List Action) :
    (inUse additions policy config hash context repliedAt actions).ReadsOnly := by
  apply inUse_induction
  · intro handle opened isOpen
    cases isOpen
  · intro fs action reads
    exact (handled_perform fs action).readsOnly reads

/-- **Handles and inodes do not interfere.** Two sessions that differ in nothing but opens and
releases show the same of all other requests, which also come to the same, and end with the same
inode table and tree; in particular, any opens and releases can be left out. Once an open was
answered with a handle, the handle stands for just that ID with just those flags until it is
released itself, whatever else happens and also if the ID is forgotten or given to another node,
unless as many further opens are granted as there are numbers for handles. And no open handle asks
for writing. -/
theorem handles_apart (additions : List Addition) (policy : CachePolicy)
    (config : Inode.TableConfig) (hash : NodeKey → UInt64) (context : Context)
    (repliedAt : Instant) :
    let session := established (Tree.rootOnly.addAll additions).2 policy config hash context
      repliedAt
    let after := inUse additions policy config hash context repliedAt
    (∀ actions fewer, aboutNodes fewer = aboutNodes actions →
      onNodes (history session fewer) = onNodes (history session actions) ∧
      onNodes (session.state.responses fewer) = onNodes (session.state.responses actions) ∧
      (after fewer).inodes = (after actions).inodes ∧ (after fewer).tree = (after actions).tree) ∧
    (∀ early route asked request handle late,
      ((after early).openDir request).1 = .ok handle →
      (∀ action ∈ late, action.releases handle = false) →
      let opened := early ++ [.query route asked (.openDir request)]
      (after (opened ++ late)).dirHandle? handle = some ⟨request.inode, request.flags⟩ ∨
        UInt64.size ≤
          ((after opened).responses late).countP fun exchange => exchange.2.isOpened) ∧
    ∀ actions handle opened, (after actions).dirHandle? handle = some opened →
      opened.flags.requestsWrite = false := by
  intro session after
  refine ⟨?_, ?_, readsOnly_inUse additions policy config hash context repliedAt⟩
  · intro actions fewer same
    have arrived : ∀ past, after past = Inode.performAll perform session.state past :=
      inUse_eq additions policy config hash context repliedAt
    obtain ⟨responses, inodes, tree⟩ := session.state.responses_of_aboutNodes same
    refine ⟨?_, responses, ?_, ?_⟩
    · have shown := onNodes_history session.state
      exact (shown fewer).trans ((congrArg _ responses).trans (shown actions).symm)
    · rw [arrived, arrived]
      exact inodes
    · rw [arrived, arrived]
      exact tree
  · intro early route asked request handle late granted unreleased opened
    have given : after opened = ((after early).openDir request).2 :=
      inUse_append additions policy config hash context repliedAt early _
    obtain ⟨isOpen, others⟩ := dirHandle?_of_openDir granted
    rw [← given] at isOpen others
    have later : after (opened ++ late) = Inode.performAll perform (after opened) late :=
      inUse_append additions policy config hash context repliedAt opened late
    rcases Nat.lt_or_ge (((after opened).responses late).countP
      fun exchange => exchange.2.isOpened) UInt64.size with few | around
    · left
      rw [later]
      apply dirHandle?_performAll isOpen unreleased
      rw [others]
      exact Nat.le_pred_of_lt few
    · exact .inr around

/-- The ID of `a` is given to `c` while `a` is open, and one more directory is opened and
released. -/
theorem handles_apart_reissued :
    let context : Context := ⟨⟨1, 0, 0, 0⟩, .epoch⟩
    let early : List Action := [.query (.session .epoch) context (.lookup ⟨.root, .ofString "a"⟩)]
    let opens (request : OpenDirRequest) : Action := .query .direct context (.openDir request)
    let late : List Action := [
      .query .direct context (.forget ⟨⟨2⟩, 1⟩),
      opens ⟨.root, .readOnly⟩,
      .query (.session .epoch) context (.lookup ⟨.root, .ofString "c"⟩),
      .query .direct context (.releaseDir .root ⟨⟨2⟩⟩)]
    let after := inUse [.file "a/b" 5, .dir "c"] .disabled ⟨1, true⟩ (fun _ => 0) context .epoch
    let busy := after (early ++ [opens ⟨⟨2⟩, .mustBeDirectory⟩] ++ late)
    busy.inodes.resolve? ⟨2⟩ = some ⟨3⟩ ∧
      (after (aboutNodes (early ++ late))).inodes = busy.inodes ∧
      busy.dirHandle? ⟨1⟩ = some ⟨⟨2⟩, .mustBeDirectory⟩ ∧
      OpenFlags.mustBeDirectory.requestsWrite = false := by
  intro context early opens late after busy
  obtain ⟨fewer, kept, reads⟩ := handles_apart [.file "a/b" 5, .dir "c"] .disabled ⟨1, true⟩
    (fun _ => 0) context .epoch
  have same : aboutNodes (aboutNodes (early ++ late)) =
      aboutNodes (early ++ [opens ⟨⟨2⟩, .mustBeDirectory⟩] ++ late) := by decide
  have granted : ((after early).openDir ⟨⟨2⟩, .mustBeDirectory⟩).1 = .ok ⟨1⟩ := by rfl
  have isOpen : busy.dirHandle? ⟨1⟩ = some ⟨⟨2⟩, .mustBeDirectory⟩ := by
    rcases kept early .direct context _ _ late granted (by decide) with isOpen | around
    · exact isOpen
    · exact absurd around (by decide)
  refine ⟨by decide, (fewer _ _ same).2.2.1, isOpen, ?_⟩
  exact reads _ _ _ isOpen

end UserFs.TreeFs
