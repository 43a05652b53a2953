import RiverGang.Lib.Py

/-!
# Issues and comments

The normalized records of `tracker/issue.py` and `tracker/comment.py`.
-/

namespace RiverGang

open Py

structure BlockerRef where
  id : Option Str
  identifier : Option Str
  state : Option Str
  deriving DecidableEq

structure Issue where
  id : Str
  identifier : Str
  title : Str
  state : Str
  description : Option Str
  priority : Option Int
  branchName : Option Str
  url : Option Str
  labels : List Str
  blockedBy : List BlockerRef
  createdAt : Option DateTime
  updatedAt : Option DateTime
  deriving DecidableEq

structure Comment where
  id : Str
  body : Str
  createdAt : Option DateTime
  updatedAt : Option DateTime
  userId : Option Str
  userName : Option Str
  deriving DecidableEq

end RiverGang
