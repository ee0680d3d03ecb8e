/-
This file fetches the documents that share links point at.
-/

import Storyboard.Failure
import Storyboard.Settings

namespace Storyboard.Remote

/-- How the remote service is reached. What is left out is taken from the settings. -/
structure Access where
  token? : Option String := none
  base? : Option String := none
  /-- What comes of a call. -/
  reply : Call → Reply

/-- What comes of a fetch, with the calls that were made. -/
structure Fetched where
  calls : List Call := []
  result : Except Failure Json

def nonEmpty? (text? : Option String) : Option String := text?.filter (!·.isEmpty)

/-- The client for an access, which needs a token. -/
def Access.client (access : Access) (settings : Settings) : Except Failure Client :=
  match (nonEmpty? access.token?).or (nonEmpty? settings.accessToken?) with
  | none => .error .notConfigured
  | some token => .ok { token, base := (nonEmpty? access.base?).getD settings.apiBase }

def Access.fetchTarget (access : Access) (client : Client) (target : Target) : Fetched :=
  if !client.token.toList.all (·.toNat < 0x80) then { result := .error .unsendableToken }
  else match client.call? target with
  | none => { result := .error .badAddress }
  | some call => {
      calls := [call]
      result := ((access.reply call).document target.path).mapError .fetching }

/-- Fetches what a link points at. -/
def Access.fetchLink (access : Access) (client : Client) (link : String) : Fetched :=
  match Reference.ofLink? link with
  | none => { result := .error .badLink }
  | some reference => access.fetchTarget client (.ofReference reference)

end Storyboard.Remote
