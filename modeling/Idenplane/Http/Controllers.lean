import Idenplane.Http.Router

/-! # Controllers

The route tables of the controllers whose handlers are modelled, as their
decorators declare them, in the order in which they are registered.
-/

namespace Idenplane.Http

structure Controller where
  path : String
  guards : List Guard

def Controller.handler (controller : Controller) (method : Method) (path : String) : Route where
  method := method
  pattern := pattern controller.path ++ if path = "" then [] else pattern path
  classGuards := controller.guards

def Route.requireAdminRoles (route : Route) (roles : List String) : Route :=
  { route with adminRoles := some { roles := roles } }

def Route.useGuards (route : Route) (guards : List Guard) : Route :=
  { route with handlerGuards := guards }

/-- `@Public()` on the handler. -/
def Route.public_ (route : Route) : Route :=
  { route with isPublic := true }

namespace RegistrationController

def controller : Controller := ⟨"realms/:realmName/registration", [.realm]⟩

def register : Route := (controller.handler .post "register").public_
def verifyEmail : Route := (controller.handler .post "verify-email").public_
def resendVerification : Route := (controller.handler .post "resend-verification").public_
def getPublicRegistrationFields : Route := (controller.handler .get "fields").public_
def getPendingRegistrations : Route :=
  (controller.handler .get "pending").useGuards [.adminApiKey]
def approveRegistration : Route :=
  (controller.handler .post "approve/:userId").useGuards [.adminApiKey]
def rejectRegistration : Route :=
  (controller.handler .post "reject/:userId").useGuards [.adminApiKey]
def getAllRegistrationFields : Route :=
  (controller.handler .get "admin/fields").useGuards [.adminApiKey]
def createRegistrationField : Route :=
  (controller.handler .post "admin/fields").useGuards [.adminApiKey]
def updateRegistrationField : Route :=
  (controller.handler .put "admin/fields/:fieldId").useGuards [.adminApiKey]
def deleteRegistrationField : Route :=
  (controller.handler .delete "admin/fields/:fieldId").useGuards [.adminApiKey]

def routes : List Route :=
  [register, verifyEmail, resendVerification, getPublicRegistrationFields,
    getPendingRegistrations, approveRegistration, rejectRegistration,
    getAllRegistrationFields, createRegistrationField, updateRegistrationField,
    deleteRegistrationField]

end RegistrationController

namespace RolesController

def controller : Controller := ⟨"admin/realms/:realmName", [.realm, .adminApiKey, .rateLimit]⟩

def createRealmRole : Route := controller.handler .post "roles"
def findRealmRoles : Route := controller.handler .get "roles"
def findRealmRole : Route := controller.handler .get "roles/:roleName"
def updateRealmRole : Route := controller.handler .put "roles/:roleName"
def patchRealmRole : Route := controller.handler .patch "roles/:roleName"
def deleteRealmRole : Route := controller.handler .delete "roles/:roleName"
def createClientRole : Route := controller.handler .post "clients/:clientId/roles"
def findClientRoles : Route := controller.handler .get "clients/:clientId/roles"
def assignRealmRoles : Route := controller.handler .post "users/:userId/role-mappings/realm"
def getUserRealmRoles : Route := controller.handler .get "users/:userId/role-mappings/realm"
def removeUserRealmRoles : Route := controller.handler .delete "users/:userId/role-mappings/realm"
def assignClientRoles : Route :=
  controller.handler .post "users/:userId/role-mappings/clients/:clientId"
def getUserClientRoles : Route :=
  controller.handler .get "users/:userId/role-mappings/clients/:clientId"
def removeUserClientRoles : Route :=
  controller.handler .delete "users/:userId/role-mappings/clients/:clientId"

def routes : List Route :=
  [createRealmRole, findRealmRoles, findRealmRole, updateRealmRole, patchRealmRole,
    deleteRealmRole, createClientRole, findClientRoles, assignRealmRoles,
    getUserRealmRoles, removeUserRealmRoles, assignClientRoles, getUserClientRoles,
    removeUserClientRoles]

end RolesController

namespace UsersController

def controller : Controller := ⟨"admin/realms/:realmName/users", [.realm, .adminApiKey, .adminRoles]⟩

def create : Route := (controller.handler .post "").requireAdminRoles ["super-admin", "admin"]

end UsersController

end Idenplane.Http
