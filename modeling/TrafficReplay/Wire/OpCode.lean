namespace TrafficReplay

/-- What a frame asks for or answers. Codes without a meaning here are kept as numbers. -/
inductive OpCode where
  | reply
  | update
  | insert
  | query
  | getMore
  | delete
  | killCursors
  | command
  | commandReply
  | msg
  | unknown (code : Int32)
deriving DecidableEq, Repr

namespace OpCode

def ofCode (code : Int32) : OpCode :=
  if code = 1 then .reply
  else if code = 2001 then .update
  else if code = 2002 then .insert
  else if code = 2004 then .query
  else if code = 2005 then .getMore
  else if code = 2006 then .delete
  else if code = 2007 then .killCursors
  else if code = 2010 then .command
  else if code = 2011 then .commandReply
  else if code = 2013 then .msg
  else .unknown code

def code : OpCode → Int32
  | .reply => 1
  | .update => 2001
  | .insert => 2002
  | .query => 2004
  | .getMore => 2005
  | .delete => 2006
  | .killCursors => 2007
  | .command => 2010
  | .commandReply => 2011
  | .msg => 2013
  | .unknown code => code

def name : OpCode → String
  | .reply => "Reply"
  | .update => "Update"
  | .insert => "Insert"
  | .query => "Query"
  | .getMore => "GetMore"
  | .delete => "Delete"
  | .killCursors => "KillCursors"
  | .command => "Command"
  | .commandReply => "CommandReply"
  | .msg => "Msg"
  | .unknown code => s!"Unknown({code.toInt})"

def expectsReply : OpCode → Bool
  | .query | .getMore | .command | .msg => true
  | _ => false

def isResponse : OpCode → Bool
  | .reply | .commandReply => true
  | _ => false

theorem code_ite {n known : Int32} {a b : OpCode} (first : a.code = known)
    (second : b.code = n) : (if n = known then a else b).code = n := by
  split
  · rename_i same
    rw [first, same]
  · exact second

theorem code_ofCode (n : Int32) : (ofCode n).code = n :=
  code_ite rfl <| code_ite rfl <| code_ite rfl <| code_ite rfl <| code_ite rfl <|
    code_ite rfl <| code_ite rfl <| code_ite rfl <| code_ite rfl <| code_ite rfl rfl

end OpCode

end TrafficReplay
