import UserFs.Proofs.Inode.Operation
import UserFs.Proofs.TreeFs.Paths

/-!
# What actions come to

By whichever route a request reaches the filesystem, one of its operations works on it. `perform`
says what comes of an action and which state it leaves. A session that is being served goes
through the same states (`run_eq`), and what it shows depends on nothing else than what the
actions came to (`history_eq`). So what holds before the first request and is kept by every action
holds of the filesystem in use (`inUse_induction`).
-/

namespace UserFs.TreeFs

/-- What comes of an action. -/
inductive Response where
  | looked (result : Except Refusal Entry)
  | forgot (outcome : Inode.ForgetOutcome)
  | opened (result : Except Refusal HandleId)
  | released (opened? : Option DirHandle)
  | resized (result : Except Refusal Unit)

/-- Works on an action. -/
def perform (fs : TreeFs) : Action → Response × TreeFs
  | .query route context (.lookup request) =>
    let (result, after) := fs.lookup context.now (route.received request)
    (.looked result, after)
  | .query _ _ (.forget request) =>
    let (outcome, after) := fs.forget request
    (.forgot outcome, after)
  | .query _ _ (.openDir request) =>
    let (result, after) := fs.openDir request
    (.opened result, after)
  | .query _ _ (.releaseDir _ request) =>
    let (opened?, after) := fs.release request
    (.released opened?, after)
  | .resize path size =>
    let (result, after) := fs.resize path size
    (.resized result, after)

theorem perform_lookup (fs : TreeFs) (route : Route) (context : Context)
    (request : LookupRequest) :
    fs.perform (.query route context (.lookup request)) =
      (.looked (fs.lookup context.now (route.received request)).1,
        (fs.lookup context.now (route.received request)).2) := rfl

theorem perform_resize (fs : TreeFs) (path : String) (size : UInt64) :
    fs.perform (.resize path size) =
      (.resized (fs.resize path size).1, (fs.resize path size).2) := rfl

/-- What an action does to the tree: nothing, or a file gets another size. -/
theorem tree_perform_cases (fs : TreeFs) (action : Action) :
    (fs.perform action).2.tree = fs.tree ∨
      ∃ key node size, fs.tree.node? key = some node ∧ node.attributes.isDirectory = false ∧
        (fs.perform action).2.tree = fs.tree.setSize key size := by
  cases action with
  | resize path size =>
    rw [perform_resize]
    rcases fs.resize_cases path size with ⟨_, refused⟩ | ⟨key, ⟨_, node, there, isFile⟩, resized⟩
    · rw [refused]
      exact .inl rfl
    · rw [resized]
      exact .inr ⟨key, node, size, there, isFile, rfl⟩
  | query route context query =>
    left
    cases query with
    | lookup request => exact tree_lookup fs context.now (route.received request)
    | forget request => rfl
    | openDir request => exact (openDir_snd fs request).2
    | releaseDir inode request => rfl

/-- Actions in order, with what comes of them. -/
def responses (fs : TreeFs) (actions : List Action) : List (Action × Response) :=
  Inode.transcript perform fs actions

theorem responses_cons (fs : TreeFs) (action : Action) (rest : List Action) :
    fs.responses (action :: rest) =
      (action, (fs.perform action).1) :: (fs.perform action).2.responses rest := rfl

/-- What is shown of an action that came to this. -/
def Action.shown : Action → Response → Shown
  | .query route context (.lookup request), .looked result =>
    .ofResult route (Query.lookup request).asked context.info
      (lookupRecord (route.received request)) (fun entry => some ⟨entry.child, entry.generation⟩)
      result
  | .query _ _ (.forget request), .forgot outcome =>
    ⟨none, false, none, [forgetRecord request.inode outcome]⟩
  | .query route context (.openDir request), .opened result =>
    .ofResult route (Query.openDir request).asked context.info (openDirRecord request.inode)
      (fun _ => none) result
  | .query _ _ (.releaseDir _ request), .released opened? =>
    ⟨none, false, none, [releaseRecord request.handle opened?]⟩
  | _, _ => .nothing

/-- A session that is being served does what `perform` says, shows what came of it, and goes
on. -/
theorem act_eq (fs : TreeFs) (action : Action) :
    act ⟨fs, .serving⟩ action =
      (action.shown (fs.perform action).1, ⟨(fs.perform action).2, .serving⟩) := by
  cases action with
  | resize path size => rfl
  | query route context query =>
    cases query with
    | lookup request => exact act_lookup fs route context request
    | forget request => exact act_forget fs route context request
    | openDir request => exact act_openDir fs route context request
    | releaseDir inode request => exact act_releaseDir fs route context inode request

theorem run_eq (fs : TreeFs) (actions : List Action) :
    run ⟨fs, .serving⟩ actions = ⟨Inode.performAll perform fs actions, .serving⟩ := by
  induction actions generalizing fs with
  | nil => rfl
  | cons action rest ih =>
    rw [run, act_eq]
    exact ih (fs.perform action).2

/-- What is shown in a session is what the actions came to. -/
theorem history_eq (fs : TreeFs) (actions : List Action) :
    history ⟨fs, .serving⟩ actions =
      (fs.responses actions).map fun exchange => (exchange.1, exchange.1.shown exchange.2) := by
  induction actions generalizing fs with
  | nil => rfl
  | cons action rest ih =>
    rw [history, act_eq]
    exact congrArg _ (ih (fs.perform action).2)

section

variable (additions : List Addition) (policy : CachePolicy) (config : Inode.TableConfig)
  (hash : NodeKey → UInt64) (context : Context) (repliedAt : Instant)

/-- What the kernel has established is the filesystem itself, being served. -/
theorem inUse_eq (actions : List Action) :
    inUse additions policy config hash context repliedAt actions =
      Inode.performAll perform (ofTree (Tree.rootOnly.addAll additions).2 policy config hash)
        actions :=
  congrArg Session.state (run_eq (ofTree (Tree.rootOnly.addAll additions).2 policy config hash)
    actions)

theorem inUse_append (early late : List Action) :
    inUse additions policy config hash context repliedAt (early ++ late) =
      Inode.performAll perform (inUse additions policy config hash context repliedAt early)
        late := by
  rw [inUse_eq, inUse_eq, Inode.performAll_append]

/-- What holds before the first request and is kept by every action holds of the filesystem in
use. -/
theorem inUse_induction {motive : TreeFs → Prop}
    (start : motive (ofTree (Tree.rootOnly.addAll additions).2 policy config hash))
    (step : ∀ (fs : TreeFs) (action : Action), motive fs → motive (fs.perform action).2)
    (actions : List Action) :
    motive (inUse additions policy config hash context repliedAt actions) := by
  induction actions using List.reverseRecOn with
  | nil => exact start
  | append_singleton before action ih =>
    rw [inUse_append]
    exact step _ action ih

end

end UserFs.TreeFs
