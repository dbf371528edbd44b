import SingleWriter.Cluster
import SingleWriter.Sql.Admin
import SingleWriter.Sql.Nodes
import SingleWriter.Store

/-!
# Deployments

A cluster and a store in memory beside a network of servers. Nodes and admin store can
each be taken from memory or from the network, so that every mixture runs on one
state, and what is not used does not change.
-/

set_option autoImplicit false

namespace SingleWriter

structure Deployment where
  cluster : Cluster
  store : Store
  network : Sql.Network

namespace Deployment

def memoryNodes : NodeAccess Deployment :=
  Cluster.access.within cluster fun cluster d => { d with cluster }

def networkNodes (credentials : Credentials) (patience : Nat) : NodeAccess Deployment :=
  (Sql.Nodes.access credentials patience).within network fun network d => { d with network }

def memoryAdmin : AdminStore Deployment := Store.admin.within store fun store d => { d with store }

def networkAdmin (client : Sql.Client) : AdminStore Deployment :=
  (Sql.Admin.store client).within network fun network d => { d with network }

end Deployment

end SingleWriter
