import PnpBus.Script.Reply

/-!
# Commands about the configuration

The first six work on the tree itself. Injected failures show in the rest,
which go through the store as drivers do.
-/

namespace PnpBus

inductive ConfigCommand where
  | create (path : String)
  | set (path name : String) (d : Data)
  | get (path name : String)
  | delete (path name : String)
  | exists (path : String)
  | dump (path : String)
  | inject (f : Faults)
  | checkPeer (module : String) (peer : Version) (path : String)
  | requestReboot (path : String)
  | needsReboot (path : String)

/-- Replaces the tree if the operation on it succeeds. -/
def updateTree (outcome : Except StoreError KeyTree) : Act Reply := do
  match outcome with
  | .ok tree =>
    modify fun w => { w with store := { w.store with tree } }
    return .stored (.ok ())
  | .error e => return .stored (.error e)

def performConfig (c : ConfigCommand) : Act Reply := do
  let store := (← get).store
  match c with
  | .create path => updateTree (store.tree.createKey path)
  | .set path name d => updateTree (store.tree.setValue path name d)
  | .get path name => return .value (store.tree.getValue path name)
  | .delete path name =>
    match store.tree.deleteValue path name with
    | .ok (tree, was) => do
      modify fun w => { w with store := { w.store with tree } }
      return .erased (.ok was)
    | .error e => return .erased (.error e)
  | .exists path => return .flag (store.tree.keyExists path)
  | .dump path => return .subtree (store.tree.find? path)
  | .inject faults => do
    modify fun w => { w with store := { w.store with faults } }
    return .done
  | .checkPeer module peer path => return .outcome (← (checkPeer module peer path).run)
  | .requestReboot path => do
    requestReboot path
    return .done
  | .needsReboot path => return .flag (store.needsReboot path)

end PnpBus
