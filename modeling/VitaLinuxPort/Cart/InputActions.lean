/-!
# Actions

`cart/src/input_actions.c`: the actions a key press can mean, and which key means which.
-/

namespace VitaLinuxPort

inductive CartInputAction where
  | none
  | next
  | previous
  | select
  | back
  | menu
  | quit
  deriving DecidableEq, Repr

def keyActionTable : List (UInt16 × CartInputAction) :=
  [(1, .quit), (16, .quit), (304, .select), (305, .back), (307, .next), (308, .previous),
    (310, .previous), (311, .next), (314, .menu), (315, .menu), (316, .quit), (546, .previous),
    (547, .next)]

def cartInputMapKey (code : UInt16) : CartInputAction :=
  (keyActionTable.lookup code).getD .none

/-- The parameter is 16 bits wide, although the values of key events are 32. -/
def cartInputKeyEmitsAction (value : UInt16) : Bool := value == 1

end VitaLinuxPort
