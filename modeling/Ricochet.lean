import Ricochet.Conversation.Basic
import Ricochet.Conversation.Trim
import Ricochet.Conversation.Unread
import Ricochet.Conversation.Validity
import Ricochet.Conversation.Contract
import Ricochet.Contact.Basic
import Ricochet.Contact.Spec
import Ricochet.Contact.Duel
import Ricochet.Contact.Locking
import Ricochet.Agent.Basic
import Ricochet.Agent.Frame
import Ricochet.Agent.Invariant
import Ricochet.Agent.Safety
import Ricochet.Agent.Deadlock
import Ricochet.Agent.Outbound
import Ricochet.Agent.Final
import Ricochet.Agent.Lifecycle
import Ricochet.Agent.Guards
import Ricochet.Agent.Connectors
import Ricochet.Agent.Status
import Ricochet.Agent.Sessions
import Ricochet.Resolver
