import RmwZenoh.Zenoh.Serializer
import RmwZenoh.Attachment
import RmwZenoh.Client.ReplyQueue
import RmwZenoh.Client.ClientData
import RmwZenoh.Client.Make
import RmwZenoh.Client.ClientSystem
import RmwZenoh.Client.RmwClientData
import RmwZenoh.Client.RmwClientSystem
import RmwZenoh.Client.ReplyStores
import RmwZenoh.Client.AfterShutdown
import RmwZenoh.Client.WakeUp
import RmwZenoh.Client.QueueOrder
import RmwZenoh.Context.Data
import RmwZenoh.Context.Discovery
