import SingleTerminalLogin.Client.Requests

/-!
# What the user typed

The four commands that send a message, and what their arguments have become when the
login manager makes its call: the message has been printed and parsed three times by
then.
-/

namespace SingleTerminalLogin

open ByteText CProgram CJson

/-- A command of the client that sends a message. -/
inductive Command where
  | regist (userName passWord : Argument)
  | login (userName passWord : Argument)
  | logout (userName : Argument)
  | exit (userName : Argument)

namespace Command

/-- `getJsonStringFromParams` of the command's class. -/
def getJsonStringFromParams : Command → C Text
  | regist u p => RegistCmd.getJsonStringFromParams u p
  | login u p => Login.getJsonStringFromParams u p
  | logout u => LogoutCmd.getJsonStringFromParams u
  | exit u => Exiter.getJsonStringFromParams u

/-- What the command asks for: to leave is to log out. -/
def request : Command → Request
  | regist u p => .regist u p
  | login u p => .login u p
  | logout u => .logout u
  | exit u => .logout u

theorem getJsonStringFromParams_eq (cmd : Command) :
    cmd.getJsonStringFromParams = cmd.request.getJsonStringFromParams := by
  cases cmd <;> rfl

end Command

/-- The parameters the login manager reads out of a message are those of the request. -/
def ParametersAre (text : Text) (sendToClientFd : Int) : Request → Prop
  | .regist u p => UserLoginImpl.registParameters text = .ok (some (u.text, p.text))
  | .login u p => UserLoginImpl.loginParameters text = .ok (some (u.text, p.text, sendToClientFd))
  | .logout u => UserLoginImpl.logoutParameters text = .ok (some u.text)

theorem parametersAre_request {r : Request} {fd : Int} {t : Text} (hfd : FitsInt fd)
    (hparse : parse t = .ok (some (managerJson r fd))) : ParametersAre t fd r := by
  cases r with
  | regist u p => exact registParameters_request hparse
  | login u p => exact loginParameters_request hfd hparse
  | logout u => exact logoutParameters_request hparse

/-- The message of every command, with any arguments and on any descriptor, makes the
login manager call what the command asks for, with exactly these arguments and this
descriptor. -/
theorem typed_is_checked (cmd : Command) (f : Int) (hf : 0 ≤ f ∧ f < 2 ^ 31) :
    ∃ t m₁ m₂, cmd.getJsonStringFromParams = .ok t ∧
      MessageReceiver.getNeedSendMessage t f = .ok m₁ ∧
      MessageDispatcher.getServiceFdAndMessage m₁ = .ok (0, m₂) ∧
      UserLoginImpl.getOperateType m₂ = .ok (0, cmd.request.messageType.value) ∧
      ParametersAre m₂ f cmd.request ∧
      ∀ m conn, UserLoginImpl.operate m m₂ cmd.request.messageType.value conn =
        ((loginManager m (cmd.request.call f) conn).1.operation,
          (loginManager m (cmd.request.call f) conn).2) := by
  have hfits : FitsInt f := ⟨le_trans (by decide) hf.1, hf.2⟩
  obtain ⟨t, m₁, m₂, ht, h₁, h₂, hparse⟩ := cmd.request.at_manager hfits
  refine ⟨t, m₁, m₂, cmd.getJsonStringFromParams_eq.trans ht, h₁, h₂, ?_, ?_, ?_⟩
  · exact getOperateType_request hparse
  · exact parametersAre_request hfits hparse
  · exact fun m conn => operate_request m conn hfits hparse

/-- A name with a quote, a backslash, a control byte and a byte above 127 in it, and an
empty password. -/
theorem typed_is_checked_escapes :
    ∃ t m₁ m₂, Login.getJsonStringFromParams ⟨[34, 92, 10, 200], by decide +kernel⟩ ⟨[], by decide +kernel⟩ = .ok t ∧
      MessageReceiver.getNeedSendMessage t 6 = .ok m₁ ∧
      MessageDispatcher.getServiceFdAndMessage m₁ = .ok (0, m₂) ∧
      UserLoginImpl.loginParameters m₂ = .ok (some ([34, 92, 10, 200], [], 6)) := by
  obtain ⟨t, m₁, m₂, ht, h₁, h₂, -, hparameters, -⟩ :=
    typed_is_checked (.login ⟨[34, 92, 10, 200], by decide +kernel⟩ ⟨[], by decide +kernel⟩) 6 (by decide)
  exact ⟨t, m₁, m₂, ht, h₁, h₂, hparameters⟩

end SingleTerminalLogin
