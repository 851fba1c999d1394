import LifecycleHooks.Shell.Fields
import LifecycleHooks.Shell.State
import LifecycleHooks.Tool.Basic

/-!
The values of parameters and how they become parts of fields.
-/

namespace LifecycleHooks.Shell.Parameters

inductive Values
  | unset
  | one (text : String)
  | many (texts : List String)

def valuesOf (state : State) (name : String) : Values :=
  match name with
  | "@" => if state.args.isEmpty then .unset else .many state.args
  | "*" => if state.args.isEmpty then .unset else .many state.args
  | "#" => .one (toString state.args.length)
  | "?" => .one (toString state.status)
  | "$" => .one (toString state.mainPid)
  | "-" => .one (state.options.letters)
  | "!" =>
      match state.lastJob with
      | some pid => .one (toString pid)
      | none => .unset
  | "0" => .one state.name
  | _ =>
      match Tool.natural? name with
      | some n =>
          match state.args[n - 1]? with
          | some text => .one text
          | none => .unset
      | none =>
          match state.value? name with
          | some text => .one text
          | none => .unset

def joint (state : State) : String :=
  match state.find? "IFS" with
  | some v => String.ofList (((v.value.map String.toList).getD []).take 1)
  | none => " "

def joined (state : State) : Values → String
  | .unset => ""
  | .one text => text
  | .many texts => (joint state).intercalate texts

def textItems (quoted : Bool) (text : String) : List Item :=
  if quoted then .present :: Item.ofText true text.toList else Item.ofLoose text.toList

def between : List (List Item) → List Item
  | [] => []
  | [items] => items
  | items :: rest => items ++ .boundary :: between rest

def valueItems (state : State) (name : String) (quoted : Bool) : Values → List Item
  | .unset => if quoted && name != "@" then [.present] else []
  | .one text => textItems quoted text
  | .many texts =>
      if quoted && name == "*" then textItems true ((joint state).intercalate texts)
      else between (texts.map (textItems quoted))

def isMissing (colon : Bool) : Values → Bool
  | .unset => true
  | .one text => colon && text.isEmpty
  | .many texts => colon && texts.all String.isEmpty

def expandTilde (state : State) (word : Word) : Word :=
  match word with
  | .plain ('~' :: text) :: rest =>
      let user := text.takeWhile (· != '/')
      let home := if user.isEmpty then state.value? "HOME"
        else if user == "root".toList then some "/root" else none
      match home with
      | some home => .quoted home.toList :: .plain (text.drop user.length) :: rest
      | none => word
  | _ => word

def withoutFinalLines (text : String) : String :=
  String.ofList (text.toList.reverse.dropWhile (· == '\n')).reverse

end LifecycleHooks.Shell.Parameters
